import TreeLint.Sandbox.Versions.Demands
import TreeLint.Sandbox.Versions.Nested
import TreeLint.Sandbox.Versions.Pathspec
import TreeLint.Sandbox.Versions.Renames
import TreeLint.Sandbox.Versions.WorkTree

/-
  What differs between snapshots, the index and the work tree.

  Key definitions include:
    * `Differences.Row`
    * `Differences.withTree`
    * `Differences.Change`
    * `Differences.changes`
    * `Differences.isDirtyTree`

  A path differs when one side has a file that the other side
  does not have.  A file that is gone and a new one like it
  are one file that got a new name; it is reported under that
  name alone.
-/

------------------------------------------------------------
-- Sides
------------------------------------------------------------

namespace TreeLint

namespace Sandbox

namespace Versions

namespace Differences

/- A path with the files that two sides have under it. -/
structure Row where
  path : Path
  old : Option Tracked
  new : Option Tracked
  /- Another work tree in which files have changed. -/
  isDirty : Bool
  /- The index holds several versions. -/
  isUnmerged : Bool

namespace Row

/- Whether the two sides differ. -/
def differs (row : Row) : Bool :=
  row.old != row.new || row.isDirty || row.isUnmerged

/- Whether both sides that are there are other work trees. -/
def isNested (row : Row) : Bool :=
  let nested : Option Tracked → Bool
    | some (.nested _) => true
    | none => true
    | _ => false
  nested row.old && nested row.new

end Row

/- The sides of two snapshots. -/
def between (old new : Snapshot) : List Row :=
  (Snapshot.paths [old, new]).map fun p =>
    ⟨p, old.file? p, new.file? p, false, false⟩

/- The sides of a snapshot and of the index. -/
def withIndex (old : Snapshot) (index : Index) : List Row :=
  let new := index.snapshot
  let conflicts := index.conflicts
  ((between old new).filter (fun row => !conflicts.contains row.path))
    ++ conflicts.map fun p => ⟨p, old.file? p, none, false, true⟩

------------------------------------------------------------
-- Other Work Trees Inside
------------------------------------------------------------

/- What is not looked at in other work trees. -/
inductive Blindness where
  | nothing
  | untrackedFiles
  | changedFiles
  | everything
deriving DecidableEq, Repr

namespace Blindness

/- The blindness that a word stands for. -/
def ofWord? : String → Option Blindness
  | "none" => some nothing
  | "untracked" => some untrackedFiles
  | "dirty" => some changedFiles
  | "all" => some everything
  | _ => none

end Blindness

/- With how much attention work trees inside are looked at. -/
structure Insight where
  /- The work trees that are told about. -/
  known : List Nested
  /- What holds for all of them, whatever is set. -/
  override? : Option Blindness
  /- What holds for those about which nothing is set. -/
  forced? : Option Blindness
  /- What holds where nothing is set at all. -/
  usual : Blindness

namespace Insight

/- The entries of an index that stand for work trees inside. -/
def entries (index : Index) : List Entry :=
  index.filter fun e =>
    match e.file with
    | .nested _ => true
    | _ => false

/- The attention that a comparison pays. -/
def of (desk : Desk) : Insight :=
  let known := if (entries desk.index).isEmpty then []
    else (Nested.listed desk.site desk.world desk.index).toOption.getD []
  ⟨known, none, none, .untrackedFiles⟩

/- The word that is set for the work tree at a path. -/
def word? (insight : Insight) (site : Site) (p : Path) : Option String :=
  (Nested.placed? insight.known p).bind fun nested =>
    (nested.own? site "ignore").orElse fun _ => nested.ignore?

/- What is not looked at in the work tree at a path. -/
def at' (insight : Insight) (site : Site) (p : Path) : Blindness :=
  let usual := (site.text? "diff.ignoresubmodules").bind
    Blindness.ofWord?
  let own := (insight.word? site p).bind Blindness.ofWord?
  (((insight.override?.orElse fun _ => own).orElse fun _ =>
    insight.forced?).orElse fun _ => usual).getD insight.usual

end Insight

/- Another work tree as a site, if there is one at a location. -/
def siteInside? (site : Site) (t : FileTree) (loc : Location) :
    Attempt (Option Site) := do
  match ← adminIn? t loc with
  | some _ =>
    match WorkTree.nestedSite? site t loc with
    | some inner => return some inner
    | none =>
      .error (.fatal ("'git status --porcelain=2' failed in submodule "
        ++ loc.toPath))
  | none =>
    let admin := loc ++ [Repository.adminName]
    if t.isDirectoryAt admin then
      .error (.fatal ("'" ++ admin.toPath
        ++ "' not recognized as a git repository"))
    else return none

/-
  Whether the files of a work tree differ from its index, or
  the index from the last commit; the number is how deep work
  trees inside of each other are looked into.
-/
def isDirtyTree (world : World) : Nat → Site → Bool → Attempt Bool
  | 0, _, _ => .ok false
  | depth + 1, site, seesUntracked => do
    let index ← Desk.indexOf world site
    let t := world.files
    let lens := Lens.ofTree site world index
    let seesUntracked := seesUntracked
      && site.text? "status.showuntrackedfiles" != some "no"
    let nested := Insight.entries index
    let known ← if nested.isEmpty then pure []
      else Nested.listed site world index
    let insight : Insight :=
      ⟨known, none, none,
        if seesUntracked then .nothing else .untrackedFiles⟩
    let isIgnored (p : Path) : Bool :=
      insight.at' site p == .everything
    let isDirtyInside ← nested.anyM fun e => do
      let blindness := insight.at' site e.path
      if blindness == .everything || blindness == .changedFiles then
        return false
      match ← siteInside? site t (WorkTree.locationOf site e.path) with
      | some inner =>
        isDirtyTree world depth inner (blindness == .nothing)
      | none => return false
    let rows := (withIndex (site.headFiles world) index).filter fun row =>
      !(row.isNested && isIgnored row.path)
    let differsAt (e : Entry) : Bool :=
      WorkTree.now? site t lens e != some e.file
        && !(nested.contains e && isIgnored e.path)
    return isDirtyInside || rows.any Row.differs || index.any differsAt
      || (seesUntracked && !(WorkTree.untracked site t index).isEmpty)

/- Whether the work tree inside at a path has changed files. -/
def isDirtyAt (insight : Insight) (site : Site) (world : World) (p : Path) :
    Attempt Bool := do
  let blindness := insight.at' site p
  if blindness == .everything || blindness == .changedFiles then
    return false
  match ← siteInside? site world.files (WorkTree.locationOf site p) with
  | some inner => isDirtyTree world 4 inner (blindness == .nothing)
  | none => return false

/- Check that all work trees inside can be looked at. -/
def checkInside (insight : Insight) (desk : Desk) : Attempt Unit := do
  let nested := Insight.entries desk.index
  if !nested.isEmpty then
    discard <| Nested.listed desk.site desk.world desk.index
  for e in nested do
    let word? := insight.word? desk.site e.path
    if insight.override?.isNone
        && word?.any (fun word => (Blindness.ofWord? word).isNone) then
      .error (.fatal ("bad --ignore-submodules argument: "
        ++ word?.getD ""))
    if !e.isFixed then
      discard <| isDirtyAt insight desk.site desk.world e.path

/-
  A path with a file of a side, and its file in the work tree.
  Where the file has to be looked at, the side is looked at as
  well.
-/
def rowWithTree (insight : Insight) (desk : Desk) (lens : Lens) (p : Path)
    (old : Option Tracked) (entry : Option Entry) : Row :=
  let site := desk.site
  let world := desk.world
  let new := entry.bind (WorkTree.now? site world.files lens)
  let isDirty := match new, entry.map Entry.isFixed with
    | some (.nested _), some false =>
      (isDirtyAt insight site world p).toOption.getD true
    | _, _ => false
  let isKnown := match WorkTree.nodeAt? site world.files p with
    | some (.file content _) =>
      WorkTree.isAsRemembered site world.files entry p content
        && (WorkTree.isKnown site world.files entry p content
          || new == entry.map Entry.file)
    | _ => true
  let isFixed := (entry.map Entry.isFixed).getD true
  let old := if isKnown || isFixed then old
    else old.map (WorkTree.found lens)
  ⟨p, old, new, isDirty, false⟩

/-
  The rows of a comparison that takes every file for changed
  that may have been.
-/
def suspecting (site : Site) (world : World) (index : Index)
    (rows : List Row) : List Row :=
  rows.map fun row =>
    match index.merged? row.path,
        WorkTree.nodeAt? site world.files row.path with
    | some e, some (.file content _) =>
      let isSuspect := e.worn.isSome && !e.isFixed
        && !WorkTree.isAsRemembered site world.files (some e) row.path
          content
      { row with isDirty := row.isDirty || isSuspect }
    | _, _ => row

/-
  The sides of a snapshot and of the work tree, as far as the
  index knows it.
-/
def withTree (insight : Insight) (desk : Desk) (lens : Lens)
    (old : Snapshot) : List Row :=
  let index := desk.index
  let paths := ((old.map Prod.fst ++ index.map Entry.path).mergeSort
    RawByte.precedes).eraseReps
  paths.map fun p =>
    rowWithTree insight desk lens p (old.file? p) (index.entry? p)

/- The sides of the index and of the work tree. -/
def ofTree (insight : Insight) (desk : Desk) (lens : Lens) : List Row :=
  let index := desk.index
  index.paths.filterMap fun p =>
    match index.entry? p with
    | none => none
    | some e =>
      if e.isFixed then none
      else
        let row := rowWithTree insight desk lens p (some e.file) (some e)
        some { row with
          old := if e.intended && row.new.isSome then none else row.old
          isUnmerged := e.stage != 0 }

/- The rows that are looked at, with regard to other work trees. -/
def visible (insight : Insight) (site : Site) (rows : List Row) :
    List Row :=
  rows.filter fun row =>
    !(row.isNested && insight.at' site row.path == .everything)

------------------------------------------------------------
-- Changes
------------------------------------------------------------

/- Where a file that was followed has been before. -/
structure Source where
  path : Path
  file : Tracked
  /- The file is still there, or has got another name, too. -/
  isCopy : Bool
  score : Nat

/- A path that differs, perhaps with the file that it was before. -/
structure Change where
  row : Row
  source? : Option Source

/- How files are followed, if they are. -/
def following? (site : Site) : Option Renames.Following :=
  let limit := match (site.text? "diff.renamelimit").bind
      Settings.integer? with
    | some n => n.toNat
    | none => 1000
  let plain : Renames.Following :=
    ⟨false, limit, Renames.leastScore, false⟩
  match site.setting? "diff.renames" with
  | none => some plain
  | some setting =>
    match setting.value.map String.toLower with
    | some "copies" => some { plain with copies := true }
    | some "copy" => some { plain with copies := true }
    | _ =>
      if (Settings.boolean? setting.value).getD true then some plain
      else none

/- Whether a pair before another one or behind has the same source. -/
def isUsedLater (pairs : List Renames.Pair) (pair : Renames.Pair) : Bool :=
  pairs.any fun other =>
    other.source == pair.source && RawByte.precedes pair.dest other.dest
      && other.dest != pair.dest

/- The changes in some rows. -/
def changes (following? : Option Renames.Following) (rows : List Row) :
    List Change :=
  let all := rows
  let rows := rows.filter Row.differs
  match following? with
  | none => rows.map fun row => ⟨row, none⟩
  | some following =>
    let sideOf (rows : List Row) (isWanted : Row → Bool)
        (side : Row → Option Tracked) : Snapshot :=
      rows.filterMap fun row =>
        if isWanted row && !row.isUnmerged then
          (side row).map fun file => (row.path, file)
        else none
    let gone := sideOf rows (fun row => row.new.isNone) Row.old
    let new := sideOf rows (fun row => row.old.isNone) Row.new
    let changed := sideOf (if following.isThorough then all else rows)
      (fun row => row.new.isSome && row.old.isSome) Row.old
    let pairs := Renames.pairs following gone changed new
    let sourceOf (row : Row) : Option Source := do
      let pair ← pairs.find? (fun pair => pair.dest == row.path)
      let isThere := (gone.file? pair.source).isNone
      let file ← (gone ++ changed).file? pair.source
      return ⟨pair.source, file, isThere || isUsedLater pairs pair,
        pair.score⟩
    rows.filterMap fun row =>
      if row.new.isNone && !row.isUnmerged
          && pairs.any (fun pair => pair.source == row.path) then
        none
      else some ⟨row, sourceOf row⟩

/- The rows below the working directory, seen from there. -/
def relative (site : Site) (rows : List Row) : List Row :=
  rows.filterMap fun row =>
    let names := namesOf row.path
    if site.inner.isPrefixOf names then
      some { row with
        path := WorkTree.pathOf (names.drop site.inner.length) }
    else none

/-
  Whether a desk has changes that were not committed; work
  trees inside do not count.
-/
def hasChanges (desk : Desk) (lens : Lens) : Bool :=
  let insight := { Insight.of desk with forced? := some .everything }
  let rows := withIndex desk.headFiles desk.index ++ ofTree insight desk lens
  (visible insight desk.site rows).any Row.differs

end Differences

end Versions

end Sandbox

end TreeLint
