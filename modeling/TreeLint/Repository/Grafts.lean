import TreeLint.Repository.Layers

/-
  Lists of grafts.

  Key definitions include:
    * `Grafts.isLine`
    * `Grafts.isText`
    * `Grafts.isSound`

  A repository may hold lists of revisions whose parents are
  not the ones that they name.  Each line of such a list is a
  revision with its parents, separated by single spaces.
-/

------------------------------------------------------------
-- Lines
------------------------------------------------------------

namespace TreeLint

namespace Repository

namespace Grafts

/- How many digits the name of a revision has. -/
def nameLength : Nat := 40

/- The name of a revision in front, taken off. -/
def dropName? (line : List Char) : Option (List Char) :=
  let name := line.take nameLength
  if name.length == nameLength
      && name.all (fun c => (Numeral.digit? 16 c).isSome) then
    some (line.drop nameLength)
  else
    none

/- Whether what stands behind a name is nothing but parents. -/
def areParents : Nat → List Char → Bool
  | _, [] => true
  | 0, _ => false
  | fuel + 1, ' ' :: rest =>
    match dropName? rest with
    | some behind => areParents fuel behind
    | none => false
  | _ + 1, _ => false

/- Whether a line names a revision and its parents. -/
def isLine (line : List Char) : Bool :=
  match dropName? line with
  | some behind => areParents behind.length behind
  | none => false

------------------------------------------------------------
-- Lists
------------------------------------------------------------

/- Whether a text is a list of grafts; an empty one is a list too. -/
def isText (text : String) : Bool :=
  let lines := Text.pieces (· == '\n') text.toList
  let lines := if lines.getLast? == some [] then lines.dropLast else lines
  lines.all isLine

/- Whether there is nothing but a list of grafts at a path. -/
def isSound (t : FileTree) (cwd : Location) (p : Path) : Bool :=
  match source t cwd p with
  | .missing => true
  | .unreadable => false
  | .text content => isText content

end Grafts

end Repository

end TreeLint
