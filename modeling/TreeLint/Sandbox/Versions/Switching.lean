import TreeLint.Sandbox.Versions.Differences
import TreeLint.Sandbox.Versions.Sparsity

/-
  Turning the files of one snapshot into those of another one.

  Key definitions include:
    * `Switching.Verdict`
    * `Switching.between`
    * `Switching.force`
    * `Switching.toClean`

  The index and the work tree go from one snapshot to another
  one.  What was changed and not committed stays as it is, and
  where it would be lost the switch is refused, unless it is
  forced.
-/

------------------------------------------------------------
-- Checks
------------------------------------------------------------

namespace TreeLint

namespace Sandbox

namespace Versions

namespace Switching

/- What happens to a path. -/
inductive Verdict where
  /- The index and the work tree stay as they are. -/
  | keep
  /- A file is put into the index and the work tree. -/
  | take (file : Tracked)
  /- The path is removed from the index and the work tree. -/
  | drop
  | refuse
deriving DecidableEq, Repr

/- What is looked at before files are changed. -/
structure View where
  site : Site
  files : FileTree
  lens : Lens
  rules : Ignored.Rules
  index : Index
  candidates : List Path
  sparsity? : Option Sparsity.Rules

namespace View

/- The view of a desk. -/
def of (desk : Desk) : View where
  site := desk.site
  files := desk.files
  lens := desk.lens
  rules := Ignored.rulesOf desk.site desk.files
  index := desk.index
  candidates := WorkTree.candidates desk.site desk.files
  sparsity? := Sparsity.rules? desk.site desk.files

/- Whether the rules keep a path out of the work tree. -/
def keepsOut (v : View) (p : Path) : Bool :=
  v.sparsity?.any fun rules => !Sparsity.isWanted rules p

/- Whether a file stands where a directory on the way would be. -/
def blocker? (v : View) (p : Path) : Option Location :=
  let names := namesOf p
  ((List.range names.length).drop 1).findSome? fun n =>
    match v.files.node? (v.site.top ++ names.take n) with
    | some .directory => none
    | none => none
    | some _ => some (names.take n)

/- Whether an entry is in the work tree as it is in the index. -/
def isCurrent (v : View) (e : Entry) : Bool :=
  if v.keepsOut e.path then true else
  match v.blocker? e.path, WorkTree.nodeAt? v.site v.files e.path with
  | some _, _ => false
  | none, none => true
  | none, some _ =>
    match e.file with
    | .nested _ => true
    | file =>
      WorkTree.seen? v.site v.files v.lens (some e) e.path == some file

/- Whether names may be removed although nobody tracks them. -/
def isFree (v : View) (names : Location) : Bool :=
  let loc := v.site.top ++ names
  match v.files.node? loc with
  | none => true
  | some .directory =>
    let p := WorkTree.pathOf names
    Ignored.isIgnored v.rules true names
      || v.candidates.all fun q =>
        !(q == p || q.startsWith (p ++ "/"))
          || WorkTree.isTracked v.index q
          || Ignored.isIgnored v.rules false (namesOf q)
  | some _ =>
    Ignored.isIgnored v.rules false names
      || WorkTree.isTracked v.index (WorkTree.pathOf names)

/-
  Whether no file that nobody tracks is in the place of a new
  file.  Work trees inside may go where there is a directory.
-/
def isAbsent (v : View) (p : Path) (new? : Option Tracked) : Bool :=
  match v.keepsOut p, v.blocker? p, new? with
  | true, _, _ => true
  | false, some names, _ => v.isFree names
  | false, none, some (.nested _) =>
    v.files.isDirectoryAt (v.site.top ++ namesOf p) || v.isFree (namesOf p)
  | false, none, _ => v.isFree (namesOf p)

end View

------------------------------------------------------------
-- Verdicts
------------------------------------------------------------

/- A verdict that holds if a check is passed. -/
def checked (isFine : Bool) (verdict : Verdict) : Verdict :=
  if isFine then verdict else .refuse

/- What happens to a path that the index holds. -/
def ofEntry (v : View) (e : Entry) (old new : Option Tracked) : Verdict :=
  let current := some e.file
  if e.stage != 0 then
    if old == new then
      match new with
      | none => .drop
      | some file => .take file
    else
      .refuse
  else if old == new || current == new then
    .keep
  else if old.isNone && new.isNone then
    .keep
  else if current == old then
    checked (v.isCurrent e)
      (match new with
        | none => .drop
        | some file => .take file)
  else
    .refuse

/- What happens to a path; the flag says that there was no index. -/
def verdict (v : View) (isInitial : Bool) (old new : Snapshot)
    (p : Path) : Verdict :=
  match v.index.entry? p, old.file? p, new.file? p with
  | some e, old, new => ofEntry v e old new
  | none, none, none => .keep
  | none, none, some file => checked (v.isAbsent p (some file)) (.take file)
  | none, some _, none => checked (v.isAbsent p none) .keep
  | none, some before, some file =>
    if isInitial then checked (v.isAbsent p (some file)) (.take file)
    else if before == file then .keep
    else .refuse

/-
  What happens to a path when the index is to be a snapshot
  and changes of the work tree are kept.
-/
def verdictClean (v : View) (new : Snapshot) (p : Path) : Verdict :=
  match v.index.entry? p, new.file? p with
  | some e, none =>
    if e.stage != 0 then .drop else checked (v.isCurrent e) .drop
  | some e, some file =>
    if e.stage != 0 then .take file
    else if e.file == file then .keep
    else checked (v.isCurrent e) (.take file)
  | none, some file => checked (v.isAbsent p (some file)) (.take file)
  | none, none => .keep

/-
  What happens to a path when nothing of what was changed is
  kept.  An entry that the work tree is not asked about is
  kept with care all the same.
-/
def verdictForced (v : View) (new : Snapshot) (p : Path) : Verdict :=
  match v.index.entry? p, new.file? p with
  | some e, some file =>
    let isSame := e.stage == 0 && e.file == file
    let isThere := (WorkTree.nodeAt? v.site v.files p).isSome
      && v.isCurrent e
    if isSame && (isThere || e.skipped) then .keep
    else checked (isSame || !e.isFixed || v.isCurrent e) (.take file)
  | some e, none => checked (!e.isFixed || v.isCurrent e) .drop
  | none, some file => .take file
  | none, none => .keep

------------------------------------------------------------
-- Carrying Out
------------------------------------------------------------

/- Put a file into the index and the work tree. -/
def takeFile (lens : Lens) (desk : Desk) (p : Path) (file : Tracked) :
    Desk :=
  let isSkipped := (desk.index.entry? p).any Entry.skipped
  let files := WorkTree.layOut desk.site lens desk.files p file
  let entry := WorkTree.worn desk.site files
    { Entry.of p file with skipped := isSkipped }
  { desk with
    world := desk.world.withFiles files
    index := desk.index.put entry }

/- Remove a path from the index and the work tree. -/
def dropFile (desk : Desk) (p : Path) : Desk :=
  { desk with
    world := desk.world.withFiles (WorkTree.remove desk.site desk.files p)
    index := desk.index.drop p }

/- Put a file into the index that is not wanted in the work tree. -/
def takeUnwanted (desk : Desk) (p : Path) (file : Tracked) : Desk :=
  let files :=
    if (desk.index.entry? p).any (fun e => !e.skipped) then
      WorkTree.remove desk.site desk.files p
    else desk.files
  { desk with
    world := desk.world.withFiles files
    index := desk.index.put { Entry.of p file with skipped := true } }

/- Put a file into the index, and into the work tree if it is wanted. -/
def takeWanted (rules : Sparsity.Rules) (lens : Lens) (desk : Desk)
    (p : Path) (file : Tracked) : Desk :=
  if Sparsity.isWanted rules p then
    let desk := takeFile lens desk p file
    { desk with
      index := desk.index.map fun e =>
        if e.path == p then { e with skipped := false } else e }
  else takeUnwanted desk p file

/- Carry verdicts out, first those that remove something. -/
def carryOut (lens : Lens) (verdicts : List (Path × Verdict))
    (desk : Desk) : Desk :=
  let rules? := Sparsity.rules? desk.site desk.files
  let cleared := verdicts.foldl
    (fun desk (p, verdict) =>
      if verdict == .drop then dropFile desk p else desk)
    desk
  let taken := verdicts.foldl
    (fun desk (p, verdict) =>
      match verdict, rules? with
      | .take file, none => takeFile lens desk p file
      | .take file, some rules => takeWanted rules lens desk p file
      | _, _ => desk)
    cleared
  match rules? with
  | none => taken
  | some rules =>
    let isLeft (p : Path) : Bool :=
      match verdicts.lookup p with
      | some (.take _) => false
      | _ => true
    Sparsity.settle rules lens isLeft taken

/- Why a verdict cannot be carried out. -/
def fault? (lens : Lens) (p : Path) : Verdict → Option String
  | .take (.file content _) => lens.smudgeFault? p content blobId
  | _ => none

/- Judge paths, and carry the verdicts out unless one is refused. -/
def judge (paths : List Path) (new : Snapshot)
    (verdictOf : View → Path → Verdict) : Job (List Path) := do
  let desk ← get
  let view := View.of desk
  let verdicts := paths.map fun p => (p, verdictOf view p)
  let refused := verdicts.filter (fun (_, verdict) => verdict == .refuse)
  if refused.isEmpty then
    let lens := Lens.ofSnapshot desk.site desk.world new
    match verdicts.findSome? (fun (p, verdict) => fault? lens p verdict) with
    | some text => Job.fatal text
    | none => set (carryOut lens verdicts desk)
  return refused.map Prod.fst

/-
  Go from one snapshot to another one.  The outcome is the
  paths for which that is refused; if there are any, nothing
  has changed.
-/
def between (isInitial : Bool) (old new : Snapshot) :
    Job (List Path) := do
  let index := (← get).index
  judge (Snapshot.paths [old, new, index.map fun e => (e.path, e.file)])
    new (fun view => verdict view isInitial old new)

/- Go to a snapshot, and keep what was only changed in the work tree. -/
def toClean (new : Snapshot) : Job (List Path) := do
  let index := (← get).index
  judge (Snapshot.paths [new, index.map fun e => (e.path, e.file)])
    new (fun view => verdictClean view new)

/- Go to a snapshot, whatever was changed. -/
def force (new : Snapshot) : Job Unit := do
  let index := (← get).index
  let refused ← judge
    (Snapshot.paths [new, index.map fun e => (e.path, e.file)])
    new (fun view => verdictForced view new)
  match refused.head? with
  | some p =>
    Job.fail 128 ("error: Entry '" ++ p ++ "' not uptodate. Cannot update.")
  | none => pure ()

/- Let the index hold a snapshot; the work tree stays as it is. -/
def setIndex (new : Snapshot) : Job Unit :=
  modify fun desk =>
    let entryOf (p : Path) (file : Tracked) : Entry :=
      match desk.index.merged? p with
      | some e => if e.file == file then { e with intended := false }
        else { Entry.of p file with skipped := e.skipped }
      | none => Entry.of p file
    { desk with index := new.map fun (p, file) => entryOf p file }

/- The complaint about files that would be lost. -/
def complaint (refused : List Path) (action : String) : String :=
  "error: Your local changes to the following files would be "
    ++ "overwritten by " ++ action ++ ":\n"
    ++ String.join (refused.map (fun p => "\t" ++ p ++ "\n"))
    ++ "Please commit your changes or stash them before you "
    ++ (if action == "checkout" then "switch branches." else "merge.")
    ++ "\nAborting"

end Switching

end Versions

end Sandbox

end TreeLint
