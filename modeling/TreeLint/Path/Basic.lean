import TreeLint.Text.Lines

/-
  Paths read as text.

  Key definitions include:
    * `Path`
    * `Path.segments`
    * `Path.parts`
    * `Path.Meaning`
    * `Path.meaning`
    * `Path.normalize`
    * `Path.join`
    * `Path.resolve`

  Key theorems include:
    * `Path.isAbsolute_iff`
    * `Path.normalize_eq_render`

  A path is a string.  Reading it consults no file system: a
  link is a name like any other, and `..` undoes the name
  before it.  What a path means in this sense is a value of
  `Path.Meaning`, and normalizing a path is writing its
  meaning in the one canonical way.
-/

------------------------------------------------------------
-- Segments
------------------------------------------------------------

namespace TreeLint

/- A path, its names separated by slashes. -/
abbrev Path := String

namespace Path

/- A path that starts with a slash starts at the root. -/
def isAbsolute (p : Path) : Bool :=
  match p.toList with
  | '/' :: _ => true
  | _ => false

theorem isAbsolute_iff
    {p : Path} :
    p.isAbsolute = true ↔ ∃ rest, p.toList = '/' :: rest := by
  unfold isAbsolute
  split
  · next rest hChars => exact iff_of_true rfl ⟨rest, hChars⟩
  · next hOther =>
    refine iff_of_false Bool.false_ne_true ?_
    rintro ⟨rest, hChars⟩
    exact hOther rest hChars

/- The texts between the slashes, empty ones included. -/
def segments (p : Path) : List String :=
  Text.splitAt '/' p

/- The segment that stands for the directory itself. -/
def current : String := "."

/- The segment that stands for the directory above. -/
def parent : String := ".."

/- Whether a segment leads nowhere. -/
def isIdle (segment : String) : Bool :=
  segment.isEmpty || segment == current

/- Segments of a path that lead somewhere. -/
def steps (p : Path) : List String :=
  p.segments.filter (fun segment => !isIdle segment)

/- Whether a path starts with a dot that leads nowhere. -/
def startsWithDot (p : Path) : Bool :=
  match p.toList with
  | ['.'] => true
  | '.' :: '/' :: _ => true
  | _ => false

/-
  The parts of a path: its root or a dot in front, and the
  segments that lead somewhere.
-/
def parts (p : Path) : List String :=
  (if p.isAbsolute then ["/"]
    else if p.startsWithDot then [current] else [])
    ++ p.steps

------------------------------------------------------------
-- The Lexical Meaning
------------------------------------------------------------

/-
  Where a path leads, seen from the root when it is absolute
  and from an unknown directory when it is not: first some
  levels up, then down along names.  The trail holds these
  names, the last one first.
-/
structure Meaning where
  absolute : Bool
  up : Nat
  trail : List String
deriving DecidableEq, Repr

namespace Meaning

/- The names in the order in which they are passed. -/
def names (m : Meaning) : List String :=
  m.trail.reverse

/- The place from which the reading of a path starts. -/
def start (absolute : Bool) : Meaning :=
  ⟨absolute, 0, []⟩

/-
  One step up.  It undoes the last name; without one it stays
  at the root or goes one level above an unknown directory.
-/
def ascend (m : Meaning) : Meaning :=
  match m.trail, m.absolute with
  | [], true => m
  | [], false => { m with up := m.up + 1 }
  | _ :: trail, _ => { m with trail }

/- One segment further. -/
def step (m : Meaning) (segment : String) : Meaning :=
  if isIdle segment then
    m
  else if segment == parent then
    m.ascend
  else
    { m with trail := segment :: m.trail }

/-
  The canonical text: names joined by single slashes behind
  the root or behind the levels up, and a single dot for a
  relative path that leads nowhere.
-/
def render (m : Meaning) : Path :=
  if m.absolute then
    "/" ++ Text.joinWith "/" m.names
  else
    match List.replicate m.up parent ++ m.names with
    | [] => current
    | parts => Text.joinWith "/" parts

end Meaning

/- Read a path from left to right. -/
def meaning (p : Path) : Meaning :=
  p.segments.foldl Meaning.step (Meaning.start p.isAbsolute)

------------------------------------------------------------
-- Normal Form And Resolution
------------------------------------------------------------

/- The canonical text of a path. -/
def normalize (p : Path) : Path :=
  p.meaning.render

theorem normalize_eq_render
    (p : Path) :
    normalize p = (meaning p).render :=
  rfl

/-
  A path behind a base.  An absolute path needs no base and
  replaces it.
-/
def join (base p : Path) : Path :=
  if p.isAbsolute || base.isEmpty then
    p
  else if base.toList.getLast? == some '/' then
    base ++ p
  else
    base ++ "/" ++ p

/- The canonical text of a path seen from a base. -/
def resolve (base p : Path) : Path :=
  if p.isAbsolute then
    normalize p
  else
    normalize (join base p)

end Path

end TreeLint
