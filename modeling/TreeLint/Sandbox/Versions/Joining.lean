import TreeLint.Sandbox.Versions.Switching
import TreeLint.Text.LineChanges

/-
  Joining two snapshots that come from a third one.

  Key definitions include:
    * `Joining.script`
    * `Joining.lines`
    * `Joining.Joined`
    * `Joining.snapshots`

  Where only one side has changed a file, its version counts.
  Where both have changed it, the changes are joined line by
  line, and what both have changed at one place is a conflict.
-/

------------------------------------------------------------
-- Lines
------------------------------------------------------------

namespace TreeLint

namespace Sandbox

namespace Versions

namespace Joining

/- A line with its line feed; the last one may have none. -/
abbrev Line := List UInt8

/- The lines of a content. -/
def linesOf (content : List UInt8) : List Line :=
  let (done, open') := content.foldl
    (fun ((done, open') : List Line × Line) b =>
      if b == 10 then ((b :: open').reverse :: done, [])
      else (done, b :: open'))
    ([], [])
  (if open'.isEmpty then done else open'.reverse :: done).reverse

/- Some old lines that are replaced by new ones. -/
abbrev Hunk := LineChanges.Hunk Line

/- The changes from some lines to others. -/
def script (old new : List Line) : List Hunk :=
  LineChanges.script old new

------------------------------------------------------------
-- Joining Lines
------------------------------------------------------------

/- A part of what two sides make of old lines. -/
inductive Part where
  | settled (lines : List Line)
  | conflict (ours old theirs : List Line)
deriving Repr

/- Where a hunk ends among the old lines. -/
def Hunk.stop (hunk : Hunk) : Nat :=
  hunk.start + hunk.removed

/- Hunks of both sides that touch each other. -/
structure Region where
  start : Nat
  stop : Nat
  ours : List Hunk
  theirs : List Hunk

/- Put a hunk into the last region, or into a new one. -/
def addHunk (regions : List Region) (isOurs : Bool) (hunk : Hunk) :
    List Region :=
  let put (r : Region) : Region :=
    { r with
      stop := max r.stop hunk.stop
      ours := if isOurs then r.ours ++ [hunk] else r.ours
      theirs := if isOurs then r.theirs else r.theirs ++ [hunk] }
  match regions with
  | r :: rest =>
    if hunk.start ≤ r.stop then put r :: rest
    else put ⟨hunk.start, hunk.stop, [], []⟩ :: r :: rest
  | [] => [put ⟨hunk.start, hunk.stop, [], []⟩]

/- The regions of the hunks of both sides, in order. -/
def regions (ours theirs : List Hunk) : List Region :=
  let all := (ours.map (·, true)) ++ (theirs.map (·, false))
  let sorted := all.mergeSort (fun a b => a.1.start ≤ b.1.start)
  (sorted.foldl (fun found (hunk, isOurs) => addHunk found isOurs hunk)
    []).reverse

/- The lines that a side makes of the old lines of a region. -/
def sideOf (old : List Line) (start stop : Nat) : List Hunk → List Line
  | [] => (old.drop start).take (stop - start)
  | hunk :: rest =>
    (old.drop start).take (hunk.start - start) ++ hunk.added
      ++ sideOf old hunk.stop stop rest

/- What becomes of a region. -/
def settle (old : List Line) (r : Region) : Part :=
  let ours := sideOf old r.start r.stop r.ours
  let theirs := sideOf old r.start r.stop r.theirs
  if r.theirs.isEmpty || ours == theirs then .settled ours
  else if r.ours.isEmpty then .settled theirs
  else .conflict ours ((old.drop r.start).take (r.stop - r.start)) theirs

/- What becomes of all lines, part by part. -/
def partsFrom (old : List Line) (at' : Nat) : List Region → List Part
  | [] => [.settled (old.drop at')]
  | r :: rest =>
    .settled ((old.drop at').take (r.start - at'))
      :: settle old r :: partsFrom old r.stop rest

/- The changes in a conflict, with short common parts between them. -/
def refinedFrom (ours : List Line) (at' : Nat) :
    List Hunk → List Part
  | [] => [.settled (ours.drop at')]
  | hunk :: rest =>
    .settled ((ours.drop at').take (hunk.start - at'))
      :: .conflict ((ours.drop hunk.start).take hunk.removed) [] hunk.added
      :: refinedFrom ours hunk.stop rest

/- How many common lines are taken into a conflict. -/
def gapLimit : Nat := 3

/- Take neighbouring changes together. -/
def gather (ours : List Line) : List Hunk → List Hunk
  | a :: b :: rest =>
    if b.start - a.stop ≤ gapLimit then
      gather ours (⟨a.start, b.stop - a.start,
        a.added ++ (ours.drop a.stop).take (b.start - a.stop)
          ++ b.added⟩ :: rest)
    else
      a :: gather ours (b :: rest)
  | hunks => hunks
termination_by hunks => hunks.length

/- The parts of a conflict that both sides do not have in common. -/
def refined : Part → List Part
  | .settled lines => [.settled lines]
  | .conflict ours old theirs =>
    if ours.isEmpty || theirs.isEmpty then [.conflict ours old theirs]
    else refinedFrom ours 0 (gather ours (script ours theirs))

/- A conflict without the lines that both sides start or end with. -/
def shortened : Part → List Part
  | .settled lines => [.settled lines]
  | .conflict ours old theirs =>
    let front := LineChanges.sharedStart ours theirs
    let restOurs := ours.drop front
    let restTheirs := theirs.drop front
    let back := LineChanges.sharedStart restOurs.reverse restTheirs.reverse
    let inner (lines : List Line) : List Line :=
      lines.take (lines.length - back)
    [ .settled (ours.take front),
      .conflict (inner restOurs) old (inner restTheirs),
      .settled (restOurs.drop (restOurs.length - back)) ]

/- The names of the versions in a conflict. -/
structure Labels where
  ours : String
  old : String
  theirs : String

/- Whose lines count in a conflict, if that is settled beforehand. -/
inductive Favor where
  | ours
  | theirs
  /- The lines of both, one after the other. -/
  | both
  /- The lines of both cannot be joined at all. -/
  | whole
deriving DecidableEq, Repr

/- Which versions are shown in a conflict. -/
inductive Display where
  | sides
  /- The old version too, and common lines of both sides. -/
  | all
  /- The old version too. -/
  | allShort
deriving DecidableEq, Repr

/- How contents are joined. -/
structure Manner where
  labels : Labels
  favor? : Option Favor
  display : Display
  /- How many signs mark a conflict. -/
  signs : Nat
  /-
    Another way to join contents: from the old one and those of
    both sides it makes one, and says whether it is settled.
  -/
  driver? : Option
    (List UInt8 → List UInt8 → List UInt8 → List UInt8 × Bool)

/- The text of a line of signs. -/
def marker (signs : Nat) (sign : Char) (label : String) : Line :=
  RawByte.encode
    (String.ofList (List.replicate signs sign)
      ++ (if label.isEmpty then "" else " " ++ label) ++ "\n")

/- Lines whose last one has a line feed. -/
def closed (lines : List Line) : List UInt8 :=
  let bytes := lines.flatten
  if bytes.isEmpty || bytes.getLast? == some 10 then bytes
  else bytes ++ [10]

/- The bytes of a part. -/
def Part.bytes (manner : Manner) : Part → List UInt8
  | .settled lines => lines.flatten
  | .conflict ours old theirs =>
    match manner.favor? with
    | some .ours => ours.flatten
    | some .theirs => theirs.flatten
    | some .both => closed ours ++ theirs.flatten
    | _ =>
      let line := marker manner.signs
      line '<' manner.labels.ours ++ closed ours
        ++ (if manner.display == .sides then []
          else line '|' manner.labels.old ++ closed old)
        ++ line '=' "" ++ closed theirs ++ line '>' manner.labels.theirs

/- Whether a part is a conflict. -/
def Part.isConflict : Part → Bool
  | .conflict _ _ _ => true
  | .settled _ => false

/- Join two contents; the flag says that there was no conflict. -/
def contents (manner : Manner) (old ours theirs : List UInt8) :
    List UInt8 × Bool :=
  let old := linesOf old
  let hunksOf (new : List UInt8) : List Hunk := script old (linesOf new)
  let parts := partsFrom old 0 (regions (hunksOf ours) (hunksOf theirs))
  let parts := match manner.display with
    | .sides => parts.flatMap refined
    | .all => parts
    | .allShort => parts.flatMap shortened
  (parts.flatMap (Part.bytes manner),
    !parts.any Part.isConflict || (manner.favor?.any (· != .whole)))

------------------------------------------------------------
-- Joining Files
------------------------------------------------------------

/- What two sides make of two values. -/
def either? {α : Type} [BEq α] (old ours theirs : α) : Option α :=
  if ours == theirs then some ours
  else if ours == old then some theirs
  else if theirs == old then some ours
  else none

/- Whether two files are of one kind. -/
def isAlike : Tracked → Tracked → Bool
  | .file _ _, .file _ _ => true
  | .link _, .link _ => true
  | .nested _, .nested _ => true
  | _, _ => false

/-
  Join two files of one kind.  The outcome is what the work
  tree holds for the time being; the flag says that there was
  no conflict.
-/
def files (manner : Manner) (old : Option Tracked)
    (ours theirs : Tracked) : Tracked × Bool :=
  match ours, theirs with
  | .file a x, .file b y =>
    let (before, z?) := match old with
      | some (.file c z) => (some c, some z)
      | _ => (none, none)
    let (executable, isModeFine) :=
      if x == y || some x == z? then (y, true) else (x, some y == z?)
    let (content, isFine) :=
      if a == b || before == some a then (b, true)
      else if before == some b then (a, true)
      else
        let before := before.getD []
        let isText := [before, a, b].all Renames.isText
        match manner.driver?, manner.favor? with
        | some driver, _ => driver before a b
        | none, some .ours =>
          if isText then contents manner before a b else (a, true)
        | none, some .theirs =>
          if isText then contents manner before a b else (b, true)
        | none, some .whole => (a, false)
        | none, _ =>
          if isText then contents manner before a b else (a, false)
    (.file content executable, isModeFine && isFine)
  | ours, theirs =>
    match either? old (some ours) (some theirs), manner.favor? with
    | some (some file), _ => (file, true)
    | _, some .ours => (ours, true)
    | _, some .theirs => (theirs, true)
    | _, _ => (ours, false)

end Joining

end Versions

end Sandbox

end TreeLint
