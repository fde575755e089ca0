import TreeLint.Proofs.Command.Assignment
import TreeLint.Proofs.Run.Prediction

/-
  What a quiet command prints.

  Key definitions include:
    * `Event.IsDetail`
    * `Event.IsAnnouncement`

  Key theorems include:
    * `Console.stdout_eq_empty_iff`
    * `TurnOf.exists_detail_iff`
    * `Options.exists_detail_iff`
    * `quiet_command_silent_iff`

  A quiet console keeps every line back but the details, which
  a verbose one prints even when it is quiet.  Details only
  arise in a dry run: from each linter that is described, and
  from its last word.
-/

------------------------------------------------------------
-- Silent Consoles
------------------------------------------------------------

namespace TreeLint

/- A detail that belongs to what is seen. -/
def Event.IsDetail (event : Event) : Prop :=
  ∃ message, event = .detail message

/- The announcement of a linter. -/
def Event.IsAnnouncement (event : Event) : Prop :=
  ∃ message, event = .announced message

namespace Console

/- Nothing is printed exactly if no event becomes a line. -/
theorem stdout_eq_empty_iff
    (console : Console)
    (events : List Event) :
    console.stdout events = "" ↔
      ∀ event ∈ events, console.line? event = none := by
  unfold stdout
  induction events with
  | nil => simp
  | cons event rest ih =>
    cases hLine : console.line? event with
    | none => simp [hLine, ih]
    | some line =>
      simp [hLine, String.append_eq_empty_iff]

/- A quiet console prints nothing but details. -/
theorem line?_eq_none_iff
    {console : Console}
    (hQuiet : console.quiet = true)
    (event : Event) :
    console.line? event = none ↔
      console.verbose = false ∨ ¬ event.IsDetail := by
  cases event <;> simp [line?, hQuiet, Event.IsDetail]

end Console

------------------------------------------------------------
-- Details Of A Run
------------------------------------------------------------

section

variable {σ : Type}
variable {host : Host σ} {session : Session}
variable {task : Task} {filter : ChangeFilter}

/- A linter with files is described by details. -/
theorem Linter.exists_detail_describe
    (linter : Linter)
    (sourceRoot : Path)
    {files : List Path}
    (hSome : files ≠ []) :
    ∃ event ∈ linter.describe sourceRoot files, event.IsDetail := by
  rcases List.exists_mem_of_ne_nil files hSome with ⟨file, hFile⟩
  refine ⟨.detail file, ?_, file, rfl⟩
  exact
    List.mem_append_right _ (List.mem_map.mpr ⟨file, hFile, rfl⟩)

/-
  Details arise in a turn exactly if its linter is announced in
  a dry run.
-/
theorem TurnOf.exists_detail_iff
    {linter : Linter}
    {before after : σ}
    {turn : Turn}
    (hTurn :
      TurnOf host session task filter linter before turn after) :
    (∃ event ∈ turn.events session task.sourceRoot, event.IsDetail) ↔
      task.dryRun = true ∧
        ∃ event ∈ turn.events session task.sourceRoot,
          event.IsAnnouncement := by
  cases hTurn with
  | unlisted hFiles => simp [Turn.events]
  | idle hFiles => simp [Turn.events]
  | @described files hSome hFiles hDry =>
    rcases linter.exists_detail_describe task.sourceRoot hSome with
      ⟨event, hEvent, hDetail⟩
    constructor
    · intro _
      exact
        ⟨hDry, _, List.mem_cons_self, _, rfl⟩
    · intro _
      exact ⟨event, List.mem_cons_of_mem _ hEvent, hDetail⟩
  | notFound hSome hFiles hDry hProgram =>
    simp [Turn.events, hDry, Event.IsDetail]
  | notStarted hSome hFiles hDry hProgram hStart =>
    simp [Turn.events, hDry, Event.IsDetail]
  | @finished files program completed _ hSome hFiles hDry hProgram
      hStart =>
    simp only [Turn.events, hDry, Bool.false_eq_true, false_and,
      iff_false]
    split <;> simp [Event.IsDetail]

/- The same in all of a run. -/
theorem Task.exists_detail_iff
    (task : Task)
    (host : Host σ)
    (session : Session)
    (state : σ) :
    (∃ event ∈ (task.run host session state).events,
        event.IsDetail) ↔
      task.dryRun = true ∧
        ∃ event ∈ (task.run host session state).events,
          event.IsAnnouncement := by
  rcases Task.events_run task host session state with
    hNone | ⟨filter, start, _, hTurns⟩
  · simp [hNone]
  · have hIn :
        ∀ kind : Event → Prop,
          (∃ event ∈ (task.run host session state).events,
              kind event) ↔
            ∃ turn ∈ turns host session task filter
                (task.registry.select task.selection) start,
            ∃ event ∈ turn.events session task.sourceRoot,
              kind event := by
      intro kind
      simp only [hTurns, List.mem_flatMap]
      grind
    rw [hIn, hIn]
    constructor
    · rintro ⟨turn, hTurn, hDetail⟩
      rcases exists_turnOf_of_mem_turns hTurn with
        ⟨linter, _, before, after, hTurnOf⟩
      rcases hTurnOf.exists_detail_iff.mp hDetail with
        ⟨hDry, hAnnounced⟩
      exact ⟨hDry, turn, hTurn, hAnnounced⟩
    · rintro ⟨hDry, turn, hTurn, hAnnounced⟩
      rcases exists_turnOf_of_mem_turns hTurn with
        ⟨linter, _, before, after, hTurnOf⟩
      exact
        ⟨turn, hTurn,
          hTurnOf.exists_detail_iff.mpr ⟨hDry, hAnnounced⟩⟩

end

------------------------------------------------------------
-- Details Of A Command
------------------------------------------------------------

namespace Options

section

variable {σ : Type}
variable {host : Host σ} {session entered : Session} {state : σ}
variable {options : Options} {task : Task}

/- A list has no details. -/
theorem not_isDetail_of_list
    (hList : options.list = true)
    {event : Event}
    (hEvent : event ∈ (options.run host session state).events) :
    ¬ event.IsDetail := by
  rintro ⟨message, rfl⟩
  unfold run at hEvent
  split at hEvent
  · cases hEvent
  · simp only [runHere] at hEvent
    split at hEvent
    · simp at hEvent
    · split at hEvent
      · simp at hEvent
      · simp only [hList, if_true, List.mem_append, List.mem_flatMap]
          at hEvent
        rcases hEvent with (hWarned | hEmpty) | ⟨linter, _, hRow⟩
        · simp at hWarned
        · unfold emptyWarning at hEmpty
          split at hEmpty <;> simp at hEmpty
        · simp [describe] at hRow

/-
  Details arise in the run of a task exactly if it is a dry run
  that either comes to its last word or has announced a linter.
-/
theorem exists_detail_runTask_iff
    (hTask : task.dryRun = options.dryRun) :
    (∃ event ∈ (options.runTask host entered task state).events,
        event.IsDetail) ↔
      options.dryRun = true ∧
        ((∃ passed,
            (options.runTask host entered task state).result =
              .ok passed) ∨
          ∃ event ∈ (options.runTask host entered task state).events,
            event.IsAnnouncement) := by
  have hDetail := Task.exists_detail_iff task host entered state
  rw [hTask] at hDetail
  unfold runTask
  cases hResult : (task.run host entered state).result with
  | error error => simpa [hResult] using hDetail
  | ok report =>
    cases hDry : options.dryRun with
    | false =>
      have hSummary : options.summary report = [] := by
        simp [summary, hDry]
      rw [hDry] at hDetail
      simp only [hResult, hSummary, List.append_nil]
      split <;> simpa using hDetail
    | true =>
      have hUnfailed : report.failed = .none :=
        Task.unfailed_of_run_eq_ok (hTask.trans hDry) hResult
      simp [hResult, Report.passed, hUnfailed, summary, hDry,
        Event.IsDetail, Event.IsAnnouncement]

/- Warnings in front make no difference to other events. -/
theorem exists_mem_behind_warnings_iff
    (warnings : List String)
    (trace : Trace σ CommandError Bool)
    {kind : Event → Prop}
    (hOther : ∀ text, ¬ kind (.warned text)) :
    (∃ event ∈ (trace.behind (warnings.map Event.warned)).events,
        kind event) ↔
      ∃ event ∈ trace.events, kind event := by
  simp [Trace.behind, or_and_right, exists_or, hOther]

/- Details arise in no other commands. -/
theorem exists_detail_iff
    (options : Options)
    (host : Host σ)
    (session : Session)
    (state : σ) :
    (∃ event ∈ (options.run host session state).events,
        event.IsDetail) ↔
      options.list = false ∧
      options.dryRun = true ∧
        ((∃ passed,
            (options.run host session state).result = .ok passed) ∨
          ∃ event ∈ (options.run host session state).events,
            event.IsAnnouncement) := by
  cases hList : options.list with
  | true =>
    simp only [Bool.true_eq_false, false_and, iff_false]
    rintro ⟨event, hEvent, hDetail⟩
    exact not_isDetail_of_list hList hEvent hDetail
  | false =>
    rcases @run_eq_of_not_list σ host session state options hList with
      ⟨warnings, hRun⟩
    rw [hRun,
      exists_mem_behind_warnings_iff _ _ (by simp [Event.IsDetail]),
      exists_mem_behind_warnings_iff _ _
        (by simp [Event.IsAnnouncement])]
    split
    · simp [Trace.behind]
    · next entered task hTask =>
      have hDry := dryRun_of_assignment_eq_ok hTask
      simpa [Trace.behind] using
        @exists_detail_runTask_iff σ host entered state options task hDry

end

end Options

------------------------------------------------------------
-- Quiet Commands
------------------------------------------------------------

/- Whatever a command comes to, its events are what it prints. -/
theorem Exit.stdout_ofTrace
    {σ : Type}
    (console : Console)
    (trace : Trace σ CommandError Bool) :
    (Exit.ofTrace console trace).stdout =
      console.stdout trace.events := by
  unfold Exit.ofTrace
  cases trace.result with
  | error error => rfl
  | ok passed => cases passed <;> rfl

/-
  A quiet command prints nothing exactly if it is not verbose,
  or lists, or is no dry run, or ends in an error before it has
  announced a linter.
-/
theorem quiet_command_silent_iff
    {σ : Type}
    (host : Host σ)
    (session : Session)
    (state : σ)
    (options : Options)
    (styled : Bool)
    (hQuiet : options.quiet = true) :
    (Exit.ofTrace (options.console styled)
        (options.run host session state)).stdout = "" ↔
      options.verbose = 0 ∨ options.list = true ∨
        options.dryRun = false ∨
        (∃ error,
          (options.run host session state).result = .error error) ∧
        ∀ event ∈ (options.run host session state).events,
          ¬ event.IsAnnouncement := by
  rw [Exit.stdout_ofTrace, Console.stdout_eq_empty_iff]
  have hLine :
      ∀ event,
        (options.console styled).line? event = none ↔
          options.verbose = 0 ∨ ¬ event.IsDetail := by
    intro event
    rw [Console.line?_eq_none_iff hQuiet]
    simp [Options.console]
  simp only [hLine]
  by_cases hVerbose : options.verbose = 0
  · simp [hVerbose]
  · have hDetails := options.exists_detail_iff host session state
    have hNone :
        (∀ event ∈ (options.run host session state).events,
            options.verbose = 0 ∨ ¬ event.IsDetail) ↔
          ¬ ∃ event ∈ (options.run host session state).events,
              event.IsDetail := by
      simp [hVerbose]
    rw [hNone, hDetails]
    -- What is left only turns the condition for details around.
    cases options.list with
    | true => simp
    | false =>
      cases options.dryRun with
      | false => simp
      | true =>
        cases (options.run host session state).result with
        | ok passed => simp [hVerbose]
        | error error => simp [hVerbose]

------------------------------------------------------------
-- A Command Where There Is Nothing To Do
------------------------------------------------------------

namespace BareScripts

/- A directory for scripts, and nothing else. -/
def tree : FileTree where
  nodes := [(["script"], .directory)]

/- No program can be started. -/
def host : Host Unit where
  files := fun _ => tree
  start := fun _ state => (none, state)

def session : Session := ⟨[], []⟩

def options : Options :=
  { Options.none with
    python := true, dryRun := true, verbose := 1, quiet := true }

/- The same with a list asked for. -/
def listing : Options := { options with list := true }

/- The one linter selected, resolved. -/
def linter : Linter := Linter.resolve "/" Config.pythonLinter

def task : Task :=
  options.task Config.defaults "/"
    (Config.defaults.linters.map (Linter.resolve "/"))

theorem read?_tree
    (name : Path) :
    tree.read? [] name = none := by
  unfold FileTree.read? FileTree.resolved?
  cases tree.locate [] name with
  | error error => rfl
  | ok loc =>
    have hNode :
        tree.node? loc = none ∨ tree.node? loc = some .directory := by
      unfold FileTree.node?
      split
      · exact .inr rfl
      · simp only [tree, List.lookup_cons]
        split
        · exact .inr rfl
        · exact .inl rfl
    rcases hNode with hNode | hNode <;> simp [hNode]

theorem load_tree :
    (Config.load tree session none).result = .ok Config.defaults := by
  apply Config.result_load_of_no_files
  · intro name _
    simp [Config.findFile?, Config.searchUp, session, read?_tree]
  · rfl

theorem findSourceRoot_tree :
    Config.defaults.findSourceRoot tree session "/" = "/" := by
  have hBlank : Text.isBlankText Config.defaults.sourceRoot = true := rfl
  unfold Config.findSourceRoot
  rw [if_pos hBlank, Repository.discover_of_no_files "/" read?_tree]
  decide

/- There is nothing for the linter to do. -/
theorem filesFor_linter :
    task.filesFor tree session .inactive linter = .ok [] := by
  have hRoot : tree.locateEntry [] "/script" = .ok ["script"] :=
    @FileTree.locateEntry_of_isPlain tree [] ["script"] .directory
      (by decide) rfl
  have hNames : tree.names ["script"] = [] := by
    simp [FileTree.names, tree, FileTree.childName?]
  have hWalk : tree.walk [] "/script" = [] :=
    FileTree.walk_of_no_names hRoot rfl hNames
  have hRoots : linter.roots = ["/script"] := by decide
  unfold Task.filesFor
  rw [hRoots, FileTree.filterFiles_of_ne_activeEmpty (by simp)]
  simp [FileTree.matchingAll, FileTree.matching, session, hWalk,
    collect, Except.map]

theorem run_task :
    task.run host session () = ⟨[], .ok Report.empty, ()⟩ := by
  have hTurn :
      TurnOf host session task .inactive linter () (.idle linter) () :=
    .idle filesFor_linter
  have hSelected : task.registry.select task.selection = [linter] := rfl
  have hRun :
      task.run host session () =
        runLinters host session task .inactive [linter] () := by
    rw [← hSelected]
    rfl
  rw [hRun, runLinters_cons hTurn]
  rfl

theorem run_options :
    options.run host session () =
      ⟨[.detail "Dry run: 0 linters would run"], .ok true, ()⟩ := by
  have hEnter : options.enter tree session = .ok session := rfl
  have hRegistry :
      Registry.ofConfig Config.defaults "/" = .ok task.registry := rfl
  have hTask :
      options.runTask host session task () =
        ⟨[.detail "Dry run: 0 linters would run"], .ok true, ()⟩ := by
    simp only [Options.runTask, run_task]
    rfl
  have hTree : host.files () = tree := rfl
  have hConfig : options.config = none := rfl
  have hDirectory : session.directory = "/" := rfl
  unfold Options.run Options.runHere
  simp only [hTree, hEnter, hConfig, load_tree, hDirectory,
    findSourceRoot_tree, hRegistry]
  exact congrArg (Trace.behind []) hTask

end BareScripts

/- Asked for a list, even a verbose command prints nothing. -/
open BareScripts in
theorem quiet_verbose_list_silent :
    listing.quiet = true ∧
    listing.verbose = 1 ∧
    (Exit.ofTrace (listing.console false)
        (listing.run host session ())).stdout = "" :=
  ⟨rfl, rfl,
    (quiet_command_silent_iff host session () listing false rfl).mpr
      (.inr (.inl rfl))⟩

/- A verbose dry run prints even when it is quiet. -/
open BareScripts in
theorem quiet_verbose_dry_run_prints :
    Options.parse session.env ["--py", "-q", "-v", "--dry-run"] =
      .ok options ∧
    options.quiet = true ∧
    (Exit.ofTrace (options.console false)
        (options.run host session ())).stdout =
      "ℹ Dry run: 0 linters would run\n" := by
  refine ⟨rfl, rfl, ?_⟩
  rw [Exit.stdout_ofTrace, run_options]
  rfl

end TreeLint
