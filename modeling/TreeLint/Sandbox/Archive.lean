import TreeLint.Path.Basic
import TreeLint.Text.RawByte

/-
  What version control remembers.

  Key definitions include:
    * `Tracked`
    * `Snapshot`
    * `Commit`
    * `Entry`
    * `Index`
    * `Archive`

  A snapshot gives a file to paths below the top of a work
  tree.  Commits are snapshots with parents.  An index is a
  snapshot in the making: it may hold several versions of one
  path, and it knows some things about its entries that a
  commit does not keep.
-/

------------------------------------------------------------
-- Snapshots
------------------------------------------------------------

namespace TreeLint

namespace Sandbox

/- A file as version control sees it. -/
inductive Tracked where
  | file (content : List UInt8) (executable : Bool)
  | link (target : Path)
  /- Another work tree, by its last commit. -/
  | nested (commit : String)
deriving DecidableEq, Repr

/- Files under their paths, seen from the top of a work tree. -/
abbrev Snapshot := List (Path × Tracked)

namespace Snapshot

/- The file under a path. -/
def file? (s : Snapshot) (p : Path) : Option Tracked :=
  s.lookup p

/- Put a file under a path, or take it away. -/
def set (s : Snapshot) (p : Path) (file : Option Tracked) : Snapshot :=
  let others := s.filter (fun entry => entry.1 != p)
  match file with
  | some file => (p, file) :: others
  | none => others

/- Whether two snapshots hold the same files. -/
def same (a b : Snapshot) : Bool :=
  a.all (fun (p, file) => b.file? p == some file)
    && b.all (fun (p, _) => (a.file? p).isSome)

/- The paths of some snapshots, each once, their bytes ascending. -/
def paths (snapshots : List Snapshot) : List Path :=
  ((snapshots.flatMap (fun s => s.map Prod.fst)).mergeSort
    RawByte.precedes).eraseReps

end Snapshot

/- A snapshot with its message and what came before it. -/
structure Commit where
  parents : List String
  files : Snapshot
  message : String
deriving Repr

------------------------------------------------------------
-- Indexes
------------------------------------------------------------

/- What is remembered of a file that was looked at. -/
structure Worn where
  size : Nat
  /- The second in which its content was written. -/
  second : Int
  /- The second of its last change of any kind. -/
  changed : Int
deriving DecidableEq, Repr

/- A version of a path in an index. -/
structure Entry where
  path : Path
  /-
    Zero for the one version of a path; in a conflict there
    are up to three: the old one, ours and theirs.
  -/
  stage : Nat
  file : Tracked
  /- The file in the work tree is taken to be like this one. -/
  assumed : Bool
  /- The file is not wanted in the work tree. -/
  skipped : Bool
  /- The file is to be added later on. -/
  intended : Bool
  /- What is known to be this file in the work tree. -/
  worn : Option Worn
deriving DecidableEq, Repr

/- The snapshot that the next commit will hold, in the making. -/
abbrev Index := List Entry

namespace Entry

/- The one version of a path. -/
def of (p : Path) (file : Tracked) : Entry :=
  ⟨p, 0, file, false, false, false, none⟩

/- Whether the work tree is not asked about an entry. -/
def isFixed (e : Entry) : Bool :=
  e.assumed || e.skipped

end Entry

namespace Index

/- The index that holds a snapshot. -/
def ofSnapshot (s : Snapshot) : Index :=
  s.map fun (p, file) => Entry.of p file

/- The version of a path that counts, one of a conflict if need be. -/
def entry? (index : Index) (p : Path) : Option Entry :=
  match index.find? (fun e => e.path == p && e.stage == 0) with
  | some e => some e
  | none => index.find? (fun e => e.path == p)

/- The version of a path without conflict. -/
def merged? (index : Index) (p : Path) : Option Entry :=
  index.find? (fun e => e.path == p && e.stage == 0)

/- The version of a path at a stage of a conflict. -/
def staged? (index : Index) (p : Path) (stage : Nat) : Option Entry :=
  index.find? (fun e => e.path == p && e.stage == stage)

/- Whether an index holds a path. -/
def holds (index : Index) (p : Path) : Bool :=
  index.any (fun e => e.path == p)

/- Take all versions of a path away. -/
def drop (index : Index) (p : Path) : Index :=
  index.filter (fun e => e.path != p)

/- Whether a path lies below another one, or the other way round. -/
def collides (p q : Path) : Bool :=
  q.startsWith (p ++ "/") || p.startsWith (q ++ "/")

/-
  Make an entry the one version of its path.  A path below it,
  or above it, gives way.
-/
def put (index : Index) (e : Entry) : Index :=
  e :: index.filter (fun other =>
    other.path != e.path && !collides e.path other.path)

/- The paths of an index, each once, their bytes ascending. -/
def paths (index : Index) : List Path :=
  ((index.map Entry.path).mergeSort RawByte.precedes).eraseReps

/- The paths that are in conflict. -/
def conflicts (index : Index) : List Path :=
  ((index.filter (fun e => e.stage != 0)).map Entry.path).eraseDups

/- The snapshot that a commit of the index holds. -/
def snapshot (index : Index) : Snapshot :=
  (index.filter (fun e => e.stage == 0 && !e.intended)).map
    fun e => (e.path, e.file)

end Index

------------------------------------------------------------
-- Archives
------------------------------------------------------------

/- Something that is kept under the digest of its content. -/
inductive Kept where
  | commit (c : Commit)
  | tree (files : Snapshot)
  | blob (content : List UInt8)
  | tag (target : String)
deriving Repr

/- All that was ever kept. -/
structure Archive where
  objects : List (String × Kept)
  /- Indexes under the numbers that their files hold. -/
  indexes : List (Nat × Index)
  /- A number that is not in use. -/
  unused : Nat
  /- Names under which something else is found. -/
  substitutes : List (String × String)
deriving Repr

namespace Archive

/- The archive in which nothing is kept. -/
def empty : Archive :=
  ⟨[], [], 0, []⟩

/- The name of what is found under a name, some steps away at most. -/
def standIn (a : Archive) : Nat → String → String
  | 0, id => id
  | steps + 1, id =>
    match a.substitutes.lookup id with
    | some other => standIn a steps other
    | none => id

/- How many steps names are followed. -/
def stepLimit : Nat := 5

/- Something kept under a name, or found in its place. -/
def object? (a : Archive) (id : String) : Option Kept :=
  a.objects.lookup (a.standIn stepLimit id)

/- A commit kept under a name. -/
def commit? (a : Archive) (id : String) : Option Commit :=
  match a.object? id with
  | some (.commit c) => some c
  | _ => none

/- Keep something under a name. -/
def keep (a : Archive) (id : String) (object : Kept) : Archive :=
  if (a.objects.lookup id).isSome then a
  else { a with objects := (id, object) :: a.objects }

end Archive

end Sandbox

end TreeLint
