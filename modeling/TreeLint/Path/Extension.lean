import TreeLint.Path.Basic

/-
  File names and their extensions.

  Key definitions include:
    * `Path.fileName?`
    * `Path.extension?`
    * `Path.hasExtension`

  Only the last name of a path counts.  Its extension is what
  stands behind the last dot; a name whose only dot leads it
  has none, and neither has the step to the directory above.
-/

------------------------------------------------------------
-- The Last Name
------------------------------------------------------------

namespace TreeLint

namespace Path

/-
  The last segment that leads somewhere, unless it leads one
  level up.
-/
def fileName? (p : Path) : Option String :=
  match (p.segments.filter (fun s => !isIdle s)).getLast? with
  | some name => if name == parent then none else some name
  | none => none

/-
  Cut a name at its last dot, the dot itself dropped.  There
  is no cut in a name without a dot.
-/
def cutLastDot : List Char → Option (List Char × List Char)
  | [] => none
  | c :: rest =>
    match cutLastDot rest with
    | some (before, after) => some (c :: before, after)
    | none => if c == '.' then some ([], rest) else none

/- The extension of a name. -/
def nameExtension? (name : String) : Option String :=
  match cutLastDot name.toList with
  | some (_ :: _, after) => some (String.ofList after)
  | _ => none

/- The extension of the last name of a path. -/
def extension? (p : Path) : Option String :=
  p.fileName?.bind nameExtension?

/- Whether a path has one of the extensions given. -/
def hasExtension (p : Path) (extensions : List String) : Bool :=
  match p.extension? with
  | some found => extensions.contains found
  | none => false

end Path

end TreeLint
