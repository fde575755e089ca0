import TreeLint.Proofs.Config.SourceRoot
import TreeLint.Proofs.FileTree.Located
import TreeLint.Proofs.FileTree.Selected
import TreeLint.Proofs.Repository.ChangedNames
import TreeLint.Proofs.Run.Turns

/-
  Changed mode behind symbolic links.

  Key definitions include:
    * `Path.relocated`
    * `Changes.Names`
    * `Task.KeepsChanged`

  Key theorems include:
    * `Path.relocated_toPath`
    * `Task.filesFor_of_verbatim`
    * `Task.keepsChanged_iff`
    * `changed_files_kept_iff`

  The files of a linter are spelled with the source root in
  front, and changed files with the top of the work tree,
  where all links are resolved.  The two are compared as they
  are spelled.  So a source root that is reached through a
  link loses each changed file below it.
-/

------------------------------------------------------------
-- Relocated Paths
------------------------------------------------------------

namespace TreeLint

/- A path with the root in front replaced by where it leads. -/
def Path.relocated
    (root : Path)
    (dest : Location)
    (p : Path) : Path :=
  if root.parts.isPrefixOf p.parts then
    Location.toPath (dest ++ p.parts.drop root.parts.length)
  else
    p

namespace Path

theorem relocated_toPath
    {place below : Location}
    (dest : Location)
    (hProper : Location.IsProper (place ++ below)) :
    relocated place.toPath dest (Location.toPath (place ++ below)) =
      Location.toPath (dest ++ below) := by
  have hPlace := (Location.isProper_append.mp hProper).1
  unfold relocated
  rw [Location.parts_toPath hPlace, Location.parts_toPath hProper]
  simp

theorem relocated_of_not_prefix
    {root p : Path}
    (dest : Location)
    (hApart : ¬ root.parts <+: p.parts) :
    relocated root dest p = p := by
  unfold relocated
  rw [if_neg]
  simpa using hApart

/- What lies below a place is spelled as the place and more. -/
theorem exists_below_of_prefix
    {place loc : Location}
    (hPlace : place.IsProper)
    (hLoc : loc.IsProper)
    (hPrefix : place.toPath.parts <+: loc.toPath.parts) :
    ∃ below, loc = place ++ below := by
  rw [Location.parts_toPath hPlace, Location.parts_toPath hLoc]
    at hPrefix
  rcases hPrefix with ⟨below, hBelow⟩
  rw [List.cons_append, List.cons.injEq] at hBelow
  exact ⟨below, hBelow.2.symm⟩

/- Where nothing moves, no path is spelled anew. -/
theorem relocated_self
    {place loc : Location}
    (hPlace : place.IsProper)
    (hLoc : loc.IsProper) :
    relocated place.toPath place loc.toPath = loc.toPath := by
  by_cases hPrefix : place.toPath.parts <+: loc.toPath.parts
  · rcases exists_below_of_prefix hPlace hLoc hPrefix with ⟨below, rfl⟩
    exact relocated_toPath place hLoc
  · exact relocated_of_not_prefix place hPrefix

/- Where a root moves, so does every path below it. -/
theorem relocated_ne
    {place dest loc : Location}
    (hPlace : place.IsProper)
    (hDest : dest.IsProper)
    (hLoc : loc.IsProper)
    (hMoved : place ≠ dest)
    (hPrefix : place.toPath.parts <+: loc.toPath.parts) :
    relocated place.toPath dest loc.toPath ≠ loc.toPath := by
  rcases exists_below_of_prefix hPlace hLoc hPrefix with ⟨below, rfl⟩
  have hBelow := (Location.isProper_append.mp hLoc).2
  rw [relocated_toPath dest hLoc]
  intro hSame
  have hEq :=
    Location.toPath_injective
      (Location.isProper_append.mpr ⟨hDest, hBelow⟩) hLoc hSame
  exact hMoved (List.append_cancel_right hEq).symm

end Path

------------------------------------------------------------
-- Files In Changed Mode
------------------------------------------------------------

namespace Changes

/- A name that is printed as it is. -/
def IsVerbatim (name : String) : Prop :=
  Path.IsRelative name ∧ isQuoted name = false

instance : DecidablePred IsVerbatim :=
  fun _ => inferInstanceAs (Decidable (_ ∧ _))

/- A path under which the top of a work tree knows a file. -/
def Names (top p : Path) : Prop :=
  ∃ name, IsVerbatim name ∧ pathOf top name = p

/- What a query finds holds a place exactly if it is named. -/
theorem holds_map_pathOf
    {above loc : Location}
    {names : List String}
    (hAbove : above.IsProper)
    (hLoc : loc.IsProper)
    (hNames : ∀ name ∈ names, Path.IsRelative name) :
    PathSet.holds (names.map (pathOf above.toPath)) loc.toPath = true ↔
      ∃ name ∈ names, pathOf above.toPath name = loc.toPath := by
  simp only [PathSet.holds, List.any_map, List.any_eq_true,
    Function.comp_apply, beq_iff_eq]
  constructor
  · rintro ⟨name, hName, hParts⟩
    refine ⟨name, hName, ?_⟩
    have hHeld := (hNames name hName).hold
    have hProper := Location.isProper_append.mpr ⟨hAbove, hHeld⟩
    unfold pathOf at hParts ⊢
    rw [Path.join_relative hAbove hHeld] at hParts ⊢
    rw [Location.parts_toPath hProper, Location.parts_toPath hLoc,
      List.cons.injEq] at hParts
    rw [hParts.2]
  · rintro ⟨name, hName, hPath⟩
    exact ⟨name, hName, by rw [hPath]⟩

/- Verbatim names are found under the paths that they name. -/
theorem query_of_verbatim
    {σ : Type}
    {host : Host σ}
    {session : Session}
    {state after : σ}
    {above : Location}
    {names : List String}
    {stderr : List UInt8}
    (hAbove : above.IsProper)
    (hNames : ∀ name ∈ names, IsVerbatim name)
    (hStart :
      host.start (invocation session above.toPath) state =
        (some ⟨some 0, printed names, stderr⟩, after)) :
    query host session above.toPath state =
      (.ok (names.map (pathOf above.toPath)), after) := by
  have hPlain :
      (names.map fun name => pathOf above.toPath (printedName name)) =
        names.map (pathOf above.toPath) := by
    apply List.map_congr_left
    intro name hName
    rw [printedName_of_not_quoted (hNames name hName).2]
  rw [query_of_printed (Location.isAbsolute_toPath above)
      (Location.normalize_toPath hAbove)
      (fun name hName => (hNames name hName).1) hStart,
    hPlain]

end Changes

namespace Task

/-
  Whatever verbatim names the version control program prints,
  a run in changed mode gives a linter those of the files
  that, relocated, are files with these names.
-/
def KeepsChanged
    (task : Task)
    (t : FileTree)
    (session : Session)
    (linter : Linter)
    (files : List Path)
    (top : Path)
    (dest : Location) : Prop :=
  ∀ (σ : Type) (host : Host σ) (state after : σ)
    (names : List String) (stderr : List UInt8),
    host.files state = t →
    host.files after = t →
    (∀ name ∈ names, Changes.IsVerbatim name) →
    host.start (Changes.invocation session top) state =
      (some ⟨some 0, Changes.printed names, stderr⟩, after) →
    ∃ filter,
      task.changeFilter host session state = (.ok filter, after) ∧
      task.filesFor t session filter linter =
        .ok (files.filter fun file =>
          names.any fun name =>
            Changes.pathOf top name ==
              Path.relocated task.sourceRoot dest file)

section

variable {σ : Type} {host : Host σ} {session : Session}
variable {state after : σ} {task : Task} {linter : Linter}
variable {files : List Path} {above : Location}
variable {names : List String} {stderr : List UInt8}

/-
  In changed mode a linter gets those of its files that are
  spelled like a file with one of the names.
-/
theorem filesFor_of_verbatim
    (hAbove : above.IsProper)
    (hChanged : task.onlyChanged = true)
    (hTop :
      Repository.discover (host.files state) session task.sourceRoot =
        .ok above.toPath)
    (hFiles :
      task.filesFor (host.files after) session .inactive linter =
        .ok files)
    (hPlaces :
      ∀ file ∈ files, ∃ loc : Location,
        loc.IsProper ∧ file = loc.toPath)
    (hNames : ∀ name ∈ names, Changes.IsVerbatim name)
    (hStart :
      host.start (Changes.invocation session above.toPath) state =
        (some ⟨some 0, Changes.printed names, stderr⟩, after)) :
    ∃ filter,
      task.changeFilter host session state = (.ok filter, after) ∧
      task.filesFor (host.files after) session filter linter =
        .ok (files.filter fun file =>
          names.any fun name =>
            Changes.pathOf above.toPath name == file) := by
  refine
    ⟨.ofChanged (names.map (Changes.pathOf above.toPath)), ?_, ?_⟩
  · unfold changeFilter
    rw [if_pos hChanged, hTop]
    simp only
    rw [Changes.query_of_verbatim hAbove hNames hStart]
  · have hFiltered :=
      FileTree.filterFiles_of_inactive hFiles
        (.ofChanged (names.map (Changes.pathOf above.toPath)))
    unfold filesFor
    rw [hFiltered]
    congr 1
    apply List.filter_congr
    intro file hFile
    rcases hPlaces file hFile with ⟨loc, hLoc, rfl⟩
    rw [ChangeFilter.admits_ofChanged, Bool.eq_iff_iff,
      Changes.holds_map_pathOf hAbove hLoc
        (fun name hName => (hNames name hName).1)]
    simp

end

section

variable {t : FileTree} {session : Session} {task : Task}
variable {linter : Linter} {files : List Path}
variable {above place dest : Location}

/-
  Where a run keeps the changed files, each file is spelled
  like a name exactly if its relocated path is.
-/
theorem KeepsChanged.named_iff
    (hKeeps :
      task.KeepsChanged t session linter files above.toPath dest)
    (hAbove : above.IsProper)
    (hChanged : task.onlyChanged = true)
    (hTop :
      Repository.discover t session task.sourceRoot =
        .ok above.toPath)
    (hFiles :
      task.filesFor t session .inactive linter = .ok files)
    (hPlaces :
      ∀ file ∈ files, ∃ loc : Location,
        loc.IsProper ∧ file = loc.toPath)
    {name : String}
    (hName : Changes.IsVerbatim name)
    {file : Path}
    (hFile : file ∈ files) :
    Changes.pathOf above.toPath name = file ↔
      Changes.pathOf above.toPath name =
        Path.relocated task.sourceRoot dest file := by
  -- A computer on which nothing but this one name is printed.
  let host : Host Unit :=
    { files := fun _ => t
      start := fun _ state =>
        (some ⟨some 0, Changes.printed [name], []⟩, state) }
  have hNames : ∀ other ∈ [name], Changes.IsVerbatim other := by
    simpa using hName
  rcases @filesFor_of_verbatim Unit host session () () task linter files
      above [name] [] hAbove hChanged hTop hFiles hPlaces hNames rfl with
    ⟨filter, hFilter, hSpelled⟩
  rcases hKeeps Unit host () () [name] [] rfl rfl hNames rfl with
    ⟨other, hOther, hRelocated⟩
  rw [hFilter] at hOther
  cases hOther
  have hSame := Except.ok.inj (hSpelled.symm.trans hRelocated)
  have hMem :
      ∀ keep : Path → Bool,
        file ∈ files.filter keep ↔ keep file = true :=
    fun keep => ⟨fun hIn => (List.mem_filter.mp hIn).2,
      fun hKept => List.mem_filter.mpr ⟨hFile, hKept⟩⟩
  have hBoth := hMem fun file =>
    [name].any fun name => Changes.pathOf above.toPath name == file
  rw [hSame, hMem] at hBoth
  simpa using hBoth.symm

theorem keepsChanged_iff
    (hAbove : above.IsProper)
    (hPlace : place.IsProper)
    (hDest : dest.IsProper)
    (hRoot : task.sourceRoot = place.toPath)
    (hChanged : task.onlyChanged = true)
    (hTop :
      Repository.discover t session task.sourceRoot =
        .ok above.toPath)
    (hFiles :
      task.filesFor t session .inactive linter = .ok files)
    (hPlaces :
      ∀ file ∈ files, ∃ loc : Location,
        loc.IsProper ∧ file = loc.toPath) :
    task.KeepsChanged t session linter files above.toPath dest ↔
      place = dest ∨
        ∀ file ∈ files,
          task.sourceRoot.parts <+: file.parts →
            ¬ Changes.Names above.toPath file ∧
            ¬ Changes.Names above.toPath
                (Path.relocated task.sourceRoot dest file) := by
  constructor
  · intro hKeeps
    by_cases hMoved : place = dest
    · exact Or.inl hMoved
    · refine Or.inr ?_
      intro file hFile hPrefix
      rcases hPlaces file hFile with ⟨loc, hLoc, rfl⟩
      have hNe :
          Path.relocated task.sourceRoot dest loc.toPath ≠
            loc.toPath := by
        rw [hRoot] at hPrefix ⊢
        exact Path.relocated_ne hPlace hDest hLoc hMoved hPrefix
      constructor
      · rintro ⟨name, hName, hPath⟩
        have hBoth :=
          (hKeeps.named_iff hAbove hChanged hTop hFiles hPlaces hName
            hFile).mp hPath
        exact hNe (hBoth.symm.trans hPath)
      · rintro ⟨name, hName, hPath⟩
        have hBoth :=
          (hKeeps.named_iff hAbove hChanged hTop hFiles hPlaces hName
            hFile).mpr hPath
        exact hNe (hPath.symm.trans hBoth)
  · intro hExact σ host state after names stderr hState hAfter hNames
      hStart
    rw [← hState] at hTop
    rw [← hAfter] at hFiles ⊢
    rcases filesFor_of_verbatim hAbove hChanged hTop hFiles hPlaces
        hNames hStart with
      ⟨filter, hFilter, hSpelled⟩
    refine ⟨filter, hFilter, ?_⟩
    rw [hSpelled]
    congr 1
    apply List.filter_congr
    intro file hFile
    rcases hPlaces file hFile with ⟨loc, hLoc, rfl⟩
    by_cases hPrefix : task.sourceRoot.parts <+: loc.toPath.parts
    · rcases hExact with rfl | hUnnamed
      · rw [hRoot, Path.relocated_self hPlace hLoc]
      · have hNone := hUnnamed loc.toPath hFile hPrefix
        rw [Bool.eq_iff_iff, List.any_eq_true, List.any_eq_true]
        constructor
        · rintro ⟨name, hName, hPath⟩
          exact
            absurd ⟨name, hNames name hName, by simpa using hPath⟩
              hNone.1
        · rintro ⟨name, hName, hPath⟩
          exact
            absurd ⟨name, hNames name hName, by simpa using hPath⟩
              hNone.2
    · rw [Path.relocated_of_not_prefix dest hPrefix]

end

end Task

------------------------------------------------------------
-- Source Roots And Links
------------------------------------------------------------

/- The files of a resolved linter are places. -/
theorem Config.exists_place_of_mem_filesFor
    {config : Config}
    {t : FileTree}
    {session : Session}
    {place : Location}
    {selection : List Language}
    {onlyChanged dryRun : Bool}
    {filter : ChangeFilter}
    {linter : Linter}
    {files : List Path}
    {file : Path}
    (hNames : t.WellNamed)
    (hLinter :
      linter ∈ config.linters.map (Linter.resolve place.toPath))
    (hFiles :
      (config.task place.toPath selection onlyChanged dryRun).filesFor
        t session filter linter = .ok files)
    (hFile : file ∈ files) :
    ∃ loc : Location, loc.IsProper ∧ file = loc.toPath := by
  rcases List.mem_map.mp hLinter with ⟨configured, _, rfl⟩
  rcases FileTree.place_of_mem_filterFiles hNames
      (fun _ => Linter.exists_place_of_mem_roots) hFiles hFile with
    ⟨loc, below, _, hProper, hPath⟩
  exact ⟨loc ++ below, hProper, hPath⟩

/-
  A run in changed mode keeps the changed files of a linter
  exactly if the source root is spelled like the place it
  leads to, or if no file of the linter below it could ever
  be reported: neither as it is spelled nor as relocated is
  it a file with a verbatim name.
-/
theorem changed_files_kept_iff
    (t : FileTree)
    (session : Session)
    (config : Config)
    (start root top : Path)
    (dest : Location)
    (selection : List Language)
    (dryRun : Bool)
    (linter : Linter)
    (files : List Path)
    (hNames : t.WellNamed)
    (hStart : config.StartsAbsolute t session start)
    (hRoot : root = config.findSourceRoot t session start)
    (hDest : t.locate session.cwd root = .ok dest)
    (hTop : Repository.discover t session root = .ok top)
    (hAbsolute : top.isAbsolute = true)
    (hLinter :
      linter ∈
        (config.task root selection true dryRun).registry.select
          selection)
    (hFiles :
      (config.task root selection true dryRun).filesFor t session
        .inactive linter = .ok files) :
    (config.task root selection true dryRun).KeepsChanged t session
        linter files top dest ↔
      root = dest.toPath ∨
        ∀ file ∈ files,
          root.parts <+: file.parts →
            ¬ Changes.Names top file ∧
            ¬ Changes.Names top (Path.relocated root dest file) := by
  rcases Config.exists_place_of_findSourceRoot hStart with
    ⟨place, hPlace, hFound⟩
  rw [hFound] at hRoot
  subst hRoot
  rcases Repository.exists_place_of_discover hTop hAbsolute with
    ⟨above, hAbove, rfl⟩
  have hDestProper : dest.IsProper :=
    FileTree.isProper_of_locate_eq_ok hNames
      (Location.isAbsolute_toPath place) hDest
  have hPlaces :
      ∀ file ∈ files, ∃ loc : Location,
        loc.IsProper ∧ file = loc.toPath :=
    fun file hFile =>
      Config.exists_place_of_mem_filesFor hNames
        (List.mem_filter.mp hLinter).1 hFiles hFile
  have hSpelled : place = dest ↔ place.toPath = dest.toPath :=
    ⟨fun hEq => hEq ▸ rfl,
      Location.toPath_injective hPlace hDestProper⟩
  rw [← hSpelled]
  exact
    Task.keepsChanged_iff hAbove hPlace hDestProper rfl rfl hTop
      hFiles hPlaces

------------------------------------------------------------
-- A Repository And A Link To It
------------------------------------------------------------

namespace Linked

/- A repository with one file, and a link to the repository. -/
def tree : FileTree where
  nodes :=
    [ (["link"], .link "repo"),
      (["repo"], .directory),
      (["repo", "src"], .directory),
      (["repo", "src", "x.h"], .file [] false),
      (["repo", ".git"], .directory),
      (["repo", ".git", "HEAD"], .file [] false),
      (["repo", ".git", "objects"], .directory),
      (["repo", ".git", "refs"], .directory),
      (["repo", ".git", "info"], .directory) ]

def session : Session := ⟨[], []⟩

/- Where the repository is administrated. -/
def place : Location := ["repo", ".git"]

def admin : Repository.Admin := ⟨"/repo/.git", "/repo/.git", "/repo"⟩

/- What an ordinary administration directory does without. -/
def absentNames : List String :=
  ["commondir", "config", "gitdir", "shallow", ".git"]

theorem locate_absent
    (name : String)
    (hName : name ∈ absentNames) :
    tree.locate [] (Location.toPath (place ++ [name])) =
      .error .notFound := by
  have hAll :
      ∀ name ∈ absentNames,
        tree.IsPlain (place ++ [name]) ∧
          tree.node? (place ++ [name]) = none ∧
          4 * name.toList.length ≤ FileTree.nameLimit := by
    decide
  rcases hAll name hName with ⟨hPlain, hMissing, hShort⟩
  exact FileTree.locate_of_missing hPlain hMissing hShort

theorem content?_absent
    (name : String)
    (hName : name ∈ absentNames) :
    Repository.content? tree [] (Location.toPath (place ++ [name])) =
      none := by
  simp [Repository.content?, FileTree.read?, FileTree.resolved?,
    locate_absent name hName]

theorem resolved?_directory
    (loc : Location)
    (hLoc :
      loc ∈ [["repo"], place, place ++ ["objects"], place ++ ["refs"]]) :
    tree.resolved? [] loc.toPath = some (loc, .directory) := by
  have hAll :
      ∀ loc ∈ [["repo"], place, place ++ ["objects"], place ++ ["refs"]],
        tree.IsPlain loc ∧ tree.node? loc = some .directory := by
    decide
  rcases hAll loc hLoc with ⟨hPlain, hNode⟩
  exact FileTree.resolved?_of_isPlain hPlain hNode rfl

theorem look_admin :
    Repository.look tree [] "/repo/.git" = .administration admin := by
  have hPlace :
      tree.resolved? [] "/repo/.git" = some (place, .directory) :=
    resolved?_directory place (by decide)
  have hCommon :
      Repository.content? tree [] "/repo/.git/commondir" = none :=
    content?_absent "commondir" (by decide)
  have hHead : tree.isFile [] "/repo/.git/HEAD" = true := by
    have hResolved :
        tree.resolved? [] "/repo/.git/HEAD" =
          some (place ++ ["HEAD"], .file [] false) :=
      @FileTree.resolved?_of_isPlain tree [] (place ++ ["HEAD"]) _
        (by decide) (by decide) rfl
    simp [FileTree.isFile, FileTree.read?, hResolved]
  have hObjects :
      tree.resolved? [] "/repo/.git/objects" =
        some (place ++ ["objects"], .directory) :=
    resolved?_directory (place ++ ["objects"]) (by decide)
  have hRefs :
      tree.resolved? [] "/repo/.git/refs" =
        some (place ++ ["refs"], .directory) :=
    resolved?_directory (place ++ ["refs"]) (by decide)
  have hAbove : Repository.directoryOf "/repo/.git" = "/repo" := by
    decide
  simp [Repository.look, Repository.lookInside, Repository.common?,
    Repository.isAdministration, Repository.inside,
    FileTree.directory?, hPlace, hCommon, hHead, hObjects, hRefs,
    hAbove, admin]

/- The repository is found wherever its top is reached from. -/
theorem find?_of_locate
    {p : Path}
    (hTop : tree.locate [] p = .ok ["repo"]) :
    Repository.find? tree [] p = some admin := by
  have hInside :
      Repository.inside (Location.toPath ["repo"])
        Repository.adminName = "/repo/.git" := by
    decide
  unfold Repository.find?
  rw [hTop]
  simp [Repository.searchUp, Repository.lookAround, hInside, look_admin]

theorem workTop_admin :
    Repository.workTop tree session admin = .ok "/repo" := by
  have hConfig :
      tree.locate [] "/repo/.git/config" = .error .notFound :=
    locate_absent "config" (by decide)
  have hShallow :
      tree.locate [] "/repo/.git/shallow" = .error .notFound :=
    locate_absent "shallow" (by decide)
  have hGrafts :
      tree.locate [] "/repo/.git/info/grafts" = .error .notFound :=
    @FileTree.locate_of_missing tree [] (place ++ ["info"]) "grafts"
      (by decide) (by decide) (by decide)
  have hPointer :
      Repository.content? tree [] "/repo/.git/gitdir" = none :=
    content?_absent "gitdir" (by decide)
  have hTop : tree.locate [] "/repo" = .ok ["repo"] :=
    @FileTree.locate_of_isPlain tree [] ["repo"] .directory (by decide)
      (by decide) rfl
  have hSettings :
      Repository.Reader.settings? ⟨tree, session, "/repo/.git"⟩
        "/repo/.git/config" = some [] := by
    simp [Repository.Reader.settings?, Repository.Reader.depthLimit,
      Repository.Reader.reading, Repository.source, session, hConfig]
  have hLayers :
      Repository.layers? tree session admin.path admin.common =
        some [] := by
    have hUser : Repository.userFiles tree session = [] := by decide
    have hName : admin.common ++ "/config" = "/repo/.git/config" := by
      decide
    have hPath : admin.path = "/repo/.git" := rfl
    unfold Repository.layers?
    simp only [hName, hPath, hSettings, hUser]
    rfl
  have hOpen : Repository.canOpen tree [] admin [] = true := by
    have hReadable : Repository.isReadable [] = true := by decide
    simp [Repository.canOpen, Repository.Grafts.isSound,
      Repository.source, Repository.inside,
      Repository.hasReachablePointer, admin, hReadable, hGrafts,
      hShallow, hPointer]
  have hOwn : Repository.pointer tree [] admin = .nothing := by
    simp [Repository.pointer, admin]
  have hUsable : Repository.isUsable tree [] admin.above = true := by
    have hDirectory : tree.isDirectoryAt ["repo"] = true := by decide
    simp [Repository.isUsable, admin, hTop, hDirectory]
  have hNone : ∀ name, Settings.last? [] name = none := fun _ => rfl
  have hNormal : Path.normalize admin.above = "/repo" := by decide
  unfold Repository.workTop
  rw [hLayers]
  simp [session, hOpen, hOwn, hUsable, hNone, hNormal]

theorem discover_of_locate
    {p : Path}
    (hTop : tree.locate [] p = .ok ["repo"]) :
    Repository.discover tree session p = .ok "/repo" := by
  have hPlace : tree.locate [] "/repo/.git" = .ok place :=
    @FileTree.locate_of_isPlain tree [] place .directory (by decide)
      (by decide) rfl
  have hInner :
      Repository.look tree [] "/repo/.git/.git" = .nothing := by
    have hAbsent :
        tree.locate [] "/repo/.git/.git" = .error .notFound :=
      locate_absent ".git" (by decide)
    simp [Repository.look, FileTree.resolved?, hAbsent]
  have hInside :
      Repository.inside place.toPath Repository.adminName =
        "/repo/.git/.git" := by
    decide
  have hPath : place.toPath = "/repo/.git" := by decide
  have hAround :
      Repository.lookAround tree [] place = .administration admin := by
    unfold Repository.lookAround
    rw [hInside, hInner, hPath, look_admin]
  have hAdmin : tree.locate [] admin.path = .ok place := hPlace
  unfold Repository.discover
  simp only [session, find?_of_locate hTop]
  unfold Repository.openAt
  simp only [hAdmin, hAround]
  exact workTop_admin

/- One linter of C++ sources, and a source root. -/
def config (root : Path) : Config where
  sourceRoot := root
  linters :=
    [ { key := .cpp
        roots := ["src"]
        extensions := ["h"]
        command := "/lint"
        args := []
        env := .empty
        cwd := none
        policy := .exitStatus } ]
  blacklist := []

def task (root : Path) : Task :=
  (config root).task root [] true false

/- The configured linter, resolved. -/
def linter (root : Path) : Linter where
  key := .cpp
  roots := [Path.resolve root "src"]
  extensions := ["h"]
  program := "/lint"
  args := []
  env := .empty
  cwd := none
  policy := .exitStatus

/- The only change is one to the file. -/
def host : Host Unit where
  files := fun _ => tree
  start := fun _ state =>
    (some ⟨some 0, Changes.printed ["src/x.h"], []⟩, state)

/- The link leads where its target does, whatever follows it. -/
theorem advance_tree_link
    {followLast : Bool}
    {rest : List String}
    (hOn : (rest.isEmpty && !followLast) = false) :
    tree.advance followLast FileTree.linkLimit [] ("link" :: rest) =
      tree.advance followLast 39 [] ("repo" :: rest) :=
  @FileTree.advance_link tree followLast [] "link" "repo" rest 39
    (by decide) rfl (by decide) hOn

theorem locate_link :
    tree.locate [] "/link" = .ok ["repo"] := by
  have hFit : FileTree.IsFit ["link"] := by decide
  have hTarget :
      tree.advance true 39 [] ["repo"] = .ok ["repo"] :=
    @FileTree.advance_plain tree ["repo"] .directory true 39 (by decide)
      rfl (Or.inl rfl)
  exact
    (FileTree.locate_toPath hFit).trans
      ((advance_tree_link rfl).trans hTarget)

theorem locateEntry_link :
    tree.locateEntry [] "/link/src" = .ok ["repo", "src"] := by
  have hFit : FileTree.IsFit ["link", "src"] := by decide
  have hTarget :
      tree.advance false 39 [] ["repo", "src"] =
        .ok ["repo", "src"] :=
    @FileTree.advance_plain tree ["repo", "src"] .directory false 39
      (by decide) rfl (Or.inl rfl)
  exact
    (FileTree.locateEntry_toPath hFit).trans
      ((advance_tree_link rfl).trans hTarget)

/- Whatever it is reached by, the directory holds the one file. -/
theorem filesFor_of_locateEntry
    {root : Path}
    (hRoot :
      tree.locateEntry [] (Path.resolve root "src") =
        .ok ["repo", "src"])
    (hFile :
      ((Path.resolve root "src").join "x.h").hasExtension ["h"] = true) :
    (task root).filesFor tree session .inactive (linter root) =
      .ok [(Path.resolve root "src").join "x.h"] := by
  have hNames : tree.names ["repo", "src"] = ["x.h"] := by
    simp [FileTree.names, tree, FileTree.childName?]
    rfl
  have hWalk :=
    FileTree.walk_of_lone_file hRoot rfl hNames rfl
  exact FileTree.filterFiles_of_lone_file hWalk hFile rfl

theorem filesFor_link :
    (task "/link").filesFor tree session .inactive (linter "/link") =
      .ok ["/link/src/x.h"] :=
  filesFor_of_locateEntry locateEntry_link (by decide)

theorem filesFor_repo :
    (task "/repo").filesFor tree session .inactive (linter "/repo") =
      .ok ["/repo/src/x.h"] := by
  have hRoot :
      tree.locateEntry [] "/repo/src" = .ok ["repo", "src"] :=
    @FileTree.locateEntry_of_isPlain tree [] ["repo", "src"]
      .directory (by decide) rfl
  exact filesFor_of_locateEntry hRoot (by decide)

end Linked

open Linked in
theorem changed_file_kept_without_link :
    (task "/repo").KeepsChanged tree session (linter "/repo")
      ["/repo/src/x.h"] "/repo" ["repo"] := by
  have hStart : (config "/repo").StartsAbsolute tree session "/" := by
    refine ⟨by decide, ?_⟩
    intro hBlank
    cases hBlank
  have hTop : tree.locate [] "/repo" = .ok ["repo"] :=
    @FileTree.locate_of_isPlain tree [] ["repo"] .directory (by decide)
      (by decide) rfl
  have hKept :=
    changed_files_kept_iff tree session (config "/repo") "/" "/repo"
      "/repo" ["repo"] [] false (linter "/repo") ["/repo/src/x.h"]
      (by decide) hStart (by decide) hTop (discover_of_locate hTop)
      (by decide) (by decide) filesFor_repo
  exact hKept.mpr (Or.inl (by decide))

/-
  Behind the link the changed file is lost: it is what git
  names once the link is resolved, and the linter that gets
  it otherwise gets no file at all.
-/
open Linked in
theorem changed_file_lost_behind_link :
    (config "/link").findSourceRoot tree session "/" = "/link" ∧
    tree.locate [] "/link" = .ok ["repo"] ∧
    Repository.discover tree session "/link" = .ok "/repo" ∧
    (task "/link").filesFor tree session .inactive (linter "/link") =
      .ok ["/link/src/x.h"] ∧
    Path.relocated "/link" ["repo"] "/link/src/x.h" =
      Changes.pathOf "/repo" "src/x.h" ∧
    ∃ filter,
      (task "/link").changeFilter host session () =
        (.ok filter, ()) ∧
      (task "/link").filesFor tree session filter (linter "/link") =
        .ok [] := by
  have hTop := discover_of_locate locate_link
  refine
    ⟨by decide, locate_link, hTop, filesFor_link, by decide, ?_⟩
  have hPlaces :
      ∀ file ∈ ["/link/src/x.h"], ∃ loc : Location,
        loc.IsProper ∧ file = loc.toPath := by
    intro file hFile
    rw [List.mem_singleton.mp hFile]
    exact ⟨["link", "src", "x.h"], by decide, by decide⟩
  rcases @Task.filesFor_of_verbatim Unit host session () ()
      (task "/link") (linter "/link") ["/link/src/x.h"] ["repo"]
      ["src/x.h"] [] (by decide) rfl hTop filesFor_link hPlaces
      (by decide) rfl with
    ⟨filter, hFilter, hFiles⟩
  refine ⟨filter, hFilter, ?_⟩
  have hNone :
      (["/link/src/x.h"].filter fun file =>
        ["src/x.h"].any fun name =>
          Changes.pathOf (Location.toPath ["repo"]) name == file) = [] := by
    decide
  rw [hNone] at hFiles
  exact hFiles

end TreeLint
