import TreeLint.Proofs.Config.SourceRoot
import TreeLint.Proofs.FileTree.Located
import TreeLint.Proofs.FileTree.Selected
import TreeLint.Proofs.Run.Turns

/-
  What the linters of a run are given.

  Key definitions include:
    * `Task.Feeds`

  Key theorems include:
    * `TurnOf.announced_of_mem_events`
    * `Turn.start_of_events`
    * `Task.start_of_events_run`
    * `Config.feeds_of_mem_filesFor`
    * `linters_given_only_admitted_files`

  Between the configuration and the arguments of a linter
  stand the source root, the walk, the blacklist and the
  change filter.  The roots of a linter are places, a walk
  leads from a place to places at it or below it, and on
  places the comparison of raw paths means what it should.
-/

------------------------------------------------------------
-- Files That A Linter May Be Given
------------------------------------------------------------

namespace TreeLint

/- What a task promises about a file that a linter is given. -/
structure Task.Feeds
    {σ : Type}
    (task : Task)
    (host : Host σ)
    (session : Session)
    (state : σ)
    (linter : Linter)
    (file : Path) : Prop where
  below : ∃ root ∈ linter.roots, root.parts <+: file.parts
  extension :
    ∃ extension ∈ linter.extensions, file.extension? = some extension
  allowed : task.blacklist.holds file = false
  changed :
    task.onlyChanged = true →
      ∃ top changed,
        Repository.discover (host.files state) session
          task.sourceRoot = .ok top ∧
        (Changes.query host session top state).1 = .ok changed ∧
        changed.holds file = true
  absolute : file.isAbsolute = true
  normal : file.normalize = file

------------------------------------------------------------
-- Turns With Files
------------------------------------------------------------

section

variable {σ : Type}
variable {host : Host σ} {session : Session}
variable {task : Task} {filter : ChangeFilter}

/- Only a linter with files is announced, and with all of them. -/
theorem TurnOf.announced_of_mem_events
    {linter : Linter}
    {before after : σ}
    {turn : Turn}
    (hTurn :
      TurnOf host session task filter linter before turn after)
    {message : String}
    (hMessage :
      .announced message ∈ turn.events session task.sourceRoot) :
    turn.files ≠ [] ∧
      message = linter.announcement turn.files.length := by
  cases hTurn with
  | unlisted hFiles => cases hMessage
  | idle hFiles => cases hMessage
  | described hSome hFiles hDry =>
    refine ⟨hSome, ?_⟩
    simpa [Turn.events, Turn.files, Linter.describe] using hMessage
  | notFound hSome hFiles hDry hProgram =>
    refine ⟨hSome, ?_⟩
    simpa [Turn.events, Turn.files] using hMessage
  | notStarted hSome hFiles hDry hProgram hStart =>
    refine ⟨hSome, ?_⟩
    simpa [Turn.events, Turn.files] using hMessage
  | finished hSome hFiles hDry hProgram hStart =>
    refine ⟨hSome, ?_⟩
    simp only [Turn.events, List.mem_cons, Event.announced.injEq,
      reduceCtorEq, false_or] at hMessage
    rcases hMessage with hEq | hLater
    · exact hEq
    · split at hLater <;> simp at hLater

/- Right before it is started, a linter is announced. -/
theorem Turn.start_of_events
    {sourceRoot : Path}
    {turn : Turn}
    {before behind : List Event}
    {invocation : Invocation}
    (hEvents :
      turn.events session sourceRoot =
        before ++ .started invocation :: behind) :
    ∃ done,
      turn = .finished done ∧
      invocation = done.invocation session ∧
      before =
        [.announced (done.linter.announcement done.files.length)] := by
  have hStarted :
      invocation ∈
        Event.invocations (turn.events session sourceRoot) := by
    rw [hEvents, invocations_append]
    simp [Event.invocations]
  rw [invocations_events_turn] at hStarted
  cases turn with
  | unlisted linter error => cases hStarted
  | idle linter => cases hStarted
  | described linter files => cases hStarted
  | stuck linter files error => cases hStarted
  | finished done =>
    have hInvocation : invocation = done.invocation session := by
      simpa [Turn.finished?] using hStarted
    refine ⟨done, rfl, hInvocation, ?_⟩
    simp only [Turn.events] at hEvents
    rcases before with _ | ⟨first, _ | ⟨second, others⟩⟩
    · simp at hEvents
    · simp only [List.singleton_append, List.cons.injEq] at hEvents
      rw [hEvents.1]
    · -- A third event can only be what the linter has found.
      simp only [List.cons_append, List.cons.injEq] at hEvents
      have hMem :
          Event.started invocation ∈
            others ++ .started invocation :: behind := by
        simp
      rw [← hEvents.2.2] at hMem
      split at hMem <;> simp at hMem

/- The same in the events of several turns. -/
theorem start_of_flatMap_events
    {sourceRoot : Path}
    {taken : List Turn}
    {before behind : List Event}
    {invocation : Invocation}
    (hEvents :
      taken.flatMap (Turn.events session sourceRoot) =
        before ++ .started invocation :: behind) :
    ∃ done earlier,
      .finished done ∈ taken ∧
      invocation = done.invocation session ∧
      before =
        earlier ++
          [.announced
            (done.linter.announcement done.files.length)] := by
  induction taken generalizing before with
  | nil => simp at hEvents
  | cons turn rest ih =>
    rw [List.flatMap_cons, List.append_eq_append_iff] at hEvents
    rcases hEvents with ⟨x, hBefore, hRest⟩ | ⟨y, hTurn, hBehind⟩
    · rcases ih hRest with
        ⟨done, earlier, hDone, hInvocation, hEarlier⟩
      refine
        ⟨done, turn.events session sourceRoot ++ earlier,
          List.mem_cons_of_mem _ hDone, hInvocation, ?_⟩
      rw [hBefore, hEarlier, List.append_assoc]
    · cases y with
      | nil =>
        rw [List.nil_append] at hBehind
        rcases @ih [] hBehind.symm with
          ⟨done, earlier, _, _, hEarlier⟩
        simp at hEarlier
      | cons event others =>
        rw [List.cons_append, List.cons.injEq] at hBehind
        rw [← hBehind.1] at hTurn
        rcases Turn.start_of_events hTurn with
          ⟨done, hDone, hInvocation, hAnnounced⟩
        exact
          ⟨done, [], hDone ▸ List.mem_cons_self, hInvocation,
            hAnnounced⟩

end

------------------------------------------------------------
-- Events Of A Run
------------------------------------------------------------

section

variable {σ : Type}
variable {host : Host σ} {session : Session}
variable {task : Task} {state : σ}

/- What happens in a run happens in a turn of a selected linter. -/
theorem Task.events_run
    (task : Task)
    (host : Host σ)
    (session : Session)
    (state : σ) :
    (task.run host session state).events = [] ∨
      ∃ filter start,
        task.changeFilter host session state = (.ok filter, start) ∧
        (task.run host session state).events =
          (turns host session task filter
            (task.registry.select task.selection) start).flatMap
            (Turn.events session task.sourceRoot) := by
  unfold Task.run
  split
  · exact Or.inl rfl
  · next filter start hFilter =>
    exact Or.inr ⟨filter, start, hFilter, (runLinters_eq_turns _ _).1⟩

/-
  A linter that a run starts has found files, and was announced
  right before with their number.
-/
theorem Task.start_of_events_run
    {before behind : List Event}
    {invocation : Invocation}
    (hEvents :
      (task.run host session state).events =
        before ++ .started invocation :: behind) :
    ∃ linter ∈ task.registry.select task.selection,
    ∃ filter start current files program earlier,
      task.changeFilter host session state = (.ok filter, start) ∧
      task.filesFor (host.files current) session filter linter =
        .ok files ∧
      files ≠ [] ∧
      invocation = linter.invocation session program files ∧
      before =
        earlier ++ [.announced (linter.announcement files.length)] := by
  rcases Task.events_run task host session state with
    hNone | ⟨filter, start, hFilter, hTurns⟩
  · rw [hNone] at hEvents
    simp at hEvents
  · rw [hTurns] at hEvents
    rcases start_of_flatMap_events hEvents with
      ⟨done, earlier, hDone, hInvocation, hBefore⟩
    rcases exists_turnOf_of_mem_turns hDone with
      ⟨linter, hLinter, current, _, hTurn⟩
    cases hTurn with
    | finished hSome hFiles =>
      exact
        ⟨linter, hLinter, filter, start, current, _, _, earlier,
          hFilter, hFiles, hSome, hInvocation, hBefore⟩

/- A linter is announced with the number of files that it has. -/
theorem Task.files_of_announced
    {message : String}
    (hMessage :
      .announced message ∈ (task.run host session state).events) :
    ∃ linter ∈ task.registry.select task.selection,
    ∃ filter current files,
      task.filesFor (host.files current) session filter linter =
        .ok files ∧
      files ≠ [] ∧
      message = linter.announcement files.length := by
  rcases Task.events_run task host session state with
    hNone | ⟨filter, start, _, hTurns⟩
  · rw [hNone] at hMessage
    cases hMessage
  · rw [hTurns] at hMessage
    rcases List.mem_flatMap.mp hMessage with ⟨turn, hTurn, hMem⟩
    rcases exists_turnOf_of_mem_turns hTurn with
      ⟨linter, hLinter, current, _, hTurnOf⟩
    rcases hTurnOf.announced_of_mem_events hMem with ⟨hSome, hCount⟩
    refine
      ⟨linter, hLinter, filter, current, turn.files, ?_, hSome, hCount⟩
    cases hTurnOf with
    | unlisted hFiles => cases hMem
    | idle hFiles => cases hMem
    | described hSome hFiles hDry => exact hFiles
    | notFound hSome hFiles hDry hProgram => exact hFiles
    | notStarted hSome hFiles hDry hProgram hStart => exact hFiles
    | finished hSome hFiles hDry hProgram hStart => exact hFiles

/- No linter is announced with no files. -/
theorem Task.announced_of_mem_events_run
    {message : String}
    (hMessage :
      .announced message ∈ (task.run host session state).events) :
    ∃ linter ∈ task.registry.select task.selection,
    ∃ count,
      1 ≤ count ∧ message = linter.announcement count := by
  rcases Task.files_of_announced hMessage with
    ⟨linter, hLinter, _, _, files, _, hSome, hCount⟩
  exact
    ⟨linter, hLinter, _, List.length_pos_iff.mpr hSome, hCount⟩

end

------------------------------------------------------------
-- Files Of Resolved Linters
------------------------------------------------------------

section

variable {σ : Type}
variable {host : Host σ} {session : Session}

/- In changed mode only what the query names passes the filter. -/
theorem Task.changed_of_admits
    {task : Task}
    {filter : ChangeFilter}
    {state start : σ}
    {file : Path}
    (hFilter :
      task.changeFilter host session state = (.ok filter, start))
    (hAdmits : filter.admits file = true)
    (hChanged : task.onlyChanged = true) :
    ∃ top changed,
      Repository.discover (host.files state) session
        task.sourceRoot = .ok top ∧
      (Changes.query host session top state).1 = .ok changed ∧
      changed.holds file = true := by
  unfold Task.changeFilter at hFilter
  rw [if_pos hChanged] at hFilter
  split at hFilter
  · cases hFilter
  · next top hTop =>
    split at hFilter
    · cases hFilter
    · next changed _ hQuery =>
      cases hFilter
      refine ⟨top, changed, hTop, by rw [hQuery], ?_⟩
      unfold ChangeFilter.ofChanged at hAdmits
      split at hAdmits
      · cases hAdmits
      · exact hAdmits

/-
  Files found for a resolved linter are as promised: its
  roots are places, so the walked paths are places too.
-/
theorem Config.feeds_of_mem_filesFor
    {config : Config}
    {root : Path}
    {selection : List Language}
    {onlyChanged dryRun : Bool}
    {filter : ChangeFilter}
    {state start current : σ}
    {linter : Linter}
    {files : List Path}
    {file : Path}
    (hPlace : ∃ place : Location, root = place.toPath)
    (hNames : (host.files current).WellNamed)
    (hLinter : linter ∈ config.linters.map (Linter.resolve root))
    (hFilter :
      (config.task root selection onlyChanged dryRun).changeFilter
        host session state = (.ok filter, start))
    (hFiles :
      (config.task root selection onlyChanged dryRun).filesFor
        (host.files current) session filter linter = .ok files)
    (hFile : file ∈ files) :
    (config.task root selection onlyChanged dryRun).Feeds
      host session state linter file := by
  rcases hPlace with ⟨place, rfl⟩
  rcases FileTree.mem_filterFiles hFiles hFile with
    ⟨_, hAccepted, hAllowed, hAdmits⟩
  rcases List.mem_map.mp hLinter with ⟨configured, _, rfl⟩
  rcases FileTree.place_of_mem_filterFiles hNames
      (fun _ => Linter.exists_place_of_mem_roots) hFiles hFile with
    ⟨loc, below, hRoot, hProper, hPath⟩
  have hLoc := (Location.isProper_append.mp hProper).1
  refine ⟨⟨_, hRoot, ?_⟩, ?_, hAllowed, ?_, ?_, ?_⟩
  · rw [hPath, Location.parts_toPath hProper,
      Location.parts_toPath hLoc]
    exact List.prefix_append ("/" :: loc) below
  · unfold Linter.accepts Path.hasExtension at hAccepted
    split at hAccepted
    · next found hFound =>
      exact ⟨found, List.contains_iff_mem.mp hAccepted, hFound⟩
    · cases hAccepted
  · exact Task.changed_of_admits hFilter hAdmits
  · rw [hPath]
    exact Location.isAbsolute_toPath _
  · rw [hPath]
    exact Location.normalize_toPath hProper

end

------------------------------------------------------------
-- Runs Of Valid Configurations
------------------------------------------------------------

/-
  Whatever a valid configuration says and whatever the tree
  holds, a linter is started on nothing but files that it may
  be given, and right after it was announced with their
  number.  No linter is announced with no files.  Whether the
  linters that ran before have changed the tree is left open.
-/
theorem linters_given_only_admitted_files
    {σ : Type}
    (host : Host σ)
    (session : Session)
    (state : σ)
    (config : Config)
    (t : FileTree)
    (finder : Session)
    (start : Path)
    (selection : List Language)
    (onlyChanged dryRun : Bool)
    (hValid : config.validate = .ok ())
    (hStart : config.StartsAbsolute t finder start)
    (hNames : ∀ current, (host.files current).WellNamed) :
    let root := config.findSourceRoot t finder start
    let task := config.task root selection onlyChanged dryRun
    let events := (task.run host session state).events
    Registry.ofConfig config root = .ok task.registry ∧
    (∀ before invocation behind,
      events = before ++ .started invocation :: behind →
      ∃ linter ∈ task.registry.select selection,
      ∃ files program earlier,
        invocation = linter.invocation session program files ∧
        invocation.args = linter.args ++ files ∧
        before =
          earlier ++ [.announced (linter.announcement files.length)] ∧
        1 ≤ files.length ∧
        ∀ file ∈ files, task.Feeds host session state linter file) ∧
    (∀ message,
      .announced message ∈ events →
      ∃ linter ∈ task.registry.select selection,
      ∃ count,
        1 ≤ count ∧ message = linter.announcement count) := by
  intro root task events
  refine
    ⟨Config.ofConfig_eq_ok hValid root, ?_,
      fun message => Task.announced_of_mem_events_run⟩
  rcases Config.exists_place_of_findSourceRoot hStart with
    ⟨place, _, hPlace⟩
  intro before invocation behind hSplit
  rcases Task.start_of_events_run hSplit with
    ⟨linter, hLinter, filter, _, current, files, program, earlier,
      hFilter, hFiles, hSome, hInvocation, hBefore⟩
  refine
    ⟨linter, hLinter, files, program, earlier, hInvocation, ?_,
      hBefore, List.length_pos_iff.mpr hSome, ?_⟩
  · rw [hInvocation]
    rfl
  · intro file hFile
    exact
      Config.feeds_of_mem_filesFor ⟨place, hPlace⟩ (hNames current)
        (List.mem_filter.mp hLinter).1 hFilter hFiles hFile

------------------------------------------------------------
-- A Run On One File
------------------------------------------------------------

namespace LoneFile

/- A directory with one file, and a program beside it. -/
def tree : FileTree where
  nodes :=
    [ (["w"], .directory),
      (["w", "x.py"], .file [] false),
      (["lint"], .file [] true) ]

/- Programs pass and only count how often they are started. -/
def host : Host Nat where
  files := fun _ => tree
  start := fun _ count => (some ⟨some 0, [], []⟩, count + 1)

def session : Session := ⟨[], []⟩

def config : Config where
  sourceRoot := "/w"
  linters :=
    [ { key := .python
        roots := ["."]
        extensions := ["py"]
        command := "/lint"
        args := ["--all"]
        env := .empty
        cwd := none
        policy := .exitStatus } ]
  blacklist := []

/- The configured linter, resolved. -/
def linter : Linter where
  key := .python
  roots := ["/w"]
  extensions := ["py"]
  program := "/lint"
  args := ["--all"]
  env := .empty
  cwd := none
  policy := .exitStatus

def task : Task :=
  config.task (config.findSourceRoot tree session "/") [] false false

theorem registry_task : task.registry = [linter] := by
  decide

/- Wherever one stands, the directory holds the one file. -/
theorem walk_root
    (cwd : Location) :
    tree.walk cwd "/w" = [.file "/w/x.py"] := by
  have hRoot : tree.locateEntry cwd "/w" = .ok ["w"] :=
    @FileTree.locateEntry_of_isPlain tree cwd ["w"] .directory
      (by decide) rfl
  have hNames : tree.names ["w"] = ["x.py"] := by
    simp [FileTree.names, tree, FileTree.childName?]
    rfl
  exact FileTree.walk_of_lone_file hRoot rfl hNames rfl

theorem filesFor_linter
    (other : Session) :
    task.filesFor tree other .inactive linter = .ok ["/w/x.py"] :=
  FileTree.filterFiles_of_lone_file (walk_root other.cwd) (by decide)
    (by decide)

theorem find?_lint
    (other : Session) :
    Program.find? tree other "/lint" = some "/lint" := by
  have hFile : tree.isProgram other.cwd "/lint" = true :=
    @FileTree.isProgram_of_isPlain tree other.cwd ["lint"] []
      (by decide) rfl
  rw [Program.find?_of_isAbsolute tree other (by decide) (by decide),
    hFile]
  rfl

/- The run in a session that may be any. -/
theorem events_run_in
    (other : Session) :
    (task.run host other 0).events =
      [ .announced "linting 1 python file",
        .started ⟨"/lint", ["--all", "/w/x.py"], other.env,
          other.directory⟩ ] := by
  have hRun :
      task.run host other 0 =
        runLinters host other task .inactive [linter] 0 := by
    rw [← registry_task]
    rfl
  have hTurn :
      TurnOf host other task .inactive linter 0
        (.finished ⟨linter, ["/w/x.py"], "/lint", ⟨some 0, [], []⟩⟩)
        1 :=
    .finished (by simp) (filesFor_linter other) rfl (find?_lint other)
      rfl
  rw [hRun, runLinters_cons hTurn]
  rfl

theorem events_run :
    (task.run host session 0).events =
      [ .announced "linting 1 python file",
        .started ⟨"/lint", ["--all", "/w/x.py"], [], "/"⟩ ] :=
  events_run_in session

end LoneFile

open LoneFile in
theorem lone_file_given_to_linter :
    config.validate = .ok () ∧
    config.StartsAbsolute tree session "/" ∧
    (∀ current, (host.files current).WellNamed) ∧
    ∃ linter ∈ task.registry.select [],
    ∃ files,
      ["--all", "/w/x.py"] = linter.args ++ files ∧
      1 ≤ files.length ∧
      ∀ file ∈ files, task.Feeds host session 0 linter file := by
  have hStart : config.StartsAbsolute tree session "/" := by
    refine ⟨by decide, ?_⟩
    intro hBlank
    cases hBlank
  have hNames : ∀ current, (host.files current).WellNamed := by
    intro current
    show tree.WellNamed
    decide
  rcases linters_given_only_admitted_files host session 0 config tree
      session "/" [] false false rfl hStart hNames with
    ⟨_, hStarted, _⟩
  rcases hStarted [.announced "linting 1 python file"] _ []
      events_run with
    ⟨linter, hLinter, files, _, _, _, hArgs, _, hSome, hFeeds⟩
  exact
    ⟨rfl, hStart, hNames, linter, hLinter, files, hArgs, hSome,
      hFeeds⟩

end TreeLint
