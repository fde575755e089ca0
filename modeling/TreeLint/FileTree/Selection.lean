import TreeLint.FileTree.Walk
import TreeLint.Path.Set

/-
  The files that one linter is given.

  Key definitions include:
    * `WalkError`
    * `FileTree.matching`
    * `ChangeFilter`
    * `ChangeFilter.ofChanged`
    * `FileTree.filterFiles`

  The roots of a linter are walked in order.  What it accepts
  is collected, blacklisted paths are removed, and where only
  changed files are asked for, the others are removed too.  A
  single fault in a walk makes the whole selection fail.
-/

------------------------------------------------------------
-- Matching Files
------------------------------------------------------------

namespace TreeLint

/- The first fault in the walk of a root. -/
structure WalkError where
  root : Path
  fault : WalkFault
  path : Path
deriving DecidableEq, Repr

namespace WalkError

/- The wording of the error. -/
def message (e : WalkError) : String :=
  "Failed to walk directory tree at " ++ e.root

end WalkError

/- The accepted files of a walk without a fault. -/
def collect
    (root : Path)
    (accepts : Path → Bool) :
    List WalkItem → Except WalkError (List Path)
  | [] => .ok []
  | .fault fault path :: _ => .error ⟨root, fault, path⟩
  | .file path :: rest =>
    match collect root accepts rest with
    | .error e => .error e
    | .ok files => .ok (if accepts path then path :: files else files)

namespace FileTree

/- The accepted files below a root. -/
def matching
    (t : FileTree)
    (cwd : Location)
    (accepts : Path → Bool)
    (root : Path) : Except WalkError (List Path) :=
  collect root accepts (t.walk cwd root)

/- The accepted files below several roots, root after root. -/
def matchingAll
    (t : FileTree)
    (cwd : Location)
    (accepts : Path → Bool) :
    List Path → Except WalkError (List Path)
  | [] => .ok []
  | root :: rest =>
    match t.matching cwd accepts root with
    | .error e => .error e
    | .ok files =>
      match t.matchingAll cwd accepts rest with
      | .error e => .error e
      | .ok others => .ok (files ++ others)

end FileTree

------------------------------------------------------------
-- Change Filters
------------------------------------------------------------

/- Whether only changed files are wanted, and which these are. -/
inductive ChangeFilter where
  | inactive
  /- Only changed files are wanted, and nothing has changed. -/
  | activeEmpty
  | active (changed : PathSet)
deriving DecidableEq, Repr

namespace ChangeFilter

/- The filter for the files that have changed. -/
def ofChanged (changed : PathSet) : ChangeFilter :=
  if changed.isEmpty then activeEmpty else active changed

/- Whether the filter lets a path pass. -/
def admits (filter : ChangeFilter) (path : Path) : Bool :=
  match filter with
  | inactive => true
  | activeEmpty => false
  | active changed => changed.holds path

end ChangeFilter

------------------------------------------------------------
-- Selection
------------------------------------------------------------

namespace FileTree

/-
  The files below the roots that are accepted, not on the
  blacklist and let pass by the filter.  Nothing is walked
  when no file can pass.
-/
def filterFiles
    (t : FileTree)
    (cwd : Location)
    (accepts : Path → Bool)
    (blacklist : PathSet)
    (filter : ChangeFilter)
    (roots : List Path) : Except WalkError (List Path) :=
  match filter with
  | .activeEmpty => .ok []
  | _ =>
    (t.matchingAll cwd accepts roots).map fun files =>
      files.filter fun path =>
        !blacklist.holds path && filter.admits path

end FileTree

end TreeLint
