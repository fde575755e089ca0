import TreeLint.Proofs.Command.Assignment
import TreeLint.Proofs.FileTree.Located
import TreeLint.Proofs.FileTree.Selected
import TreeLint.Proofs.Run.Exactness

/-
  A whole run, from the command line to the exit code.

  Key theorems include:
    * `Registry.select_eq_filter`
    * `Task.exists_runsExactly`
    * `run_starts_exactly_linters_with_files`

  A run that ends in a report has started exactly the selected
  linters that have files, in order, up to the first one that
  failed.  A command succeeds only if every selected linter
  that has files was started on all of them and passed.
-/

------------------------------------------------------------
-- Tasks
------------------------------------------------------------

namespace TreeLint

/- The linters of the languages selected, or all for want of any. -/
theorem Registry.select_eq_filter
    (registry : Registry)
    (selection : List Language) :
    registry.select selection =
      registry.filter
        (fun linter => selection = [] ∨ linter.key ∈ selection) := by
  unfold Registry.select
  congr 1
  funext linter
  cases selection with
  | nil => rfl
  | cons first rest => simp [covers]

section

variable {σ : Type}
variable {host : Host σ} {session : Session} {state : σ}

/- A task that ends in a report has asked for its filter. -/
theorem Task.run_eq_of_result_eq_ok
    {task : Task}
    {report : Report}
    (hReport : (task.run host session state).result = .ok report) :
    ∃ filter start,
      task.changeFilter host session state = (.ok filter, start) ∧
      task.run host session state =
        runLinters host session task filter
          (task.registry.select task.selection) start := by
  unfold Task.run at hReport ⊢
  split at hReport
  · cases hReport
  · next filter start hFilter => exact ⟨filter, start, hFilter, rfl⟩

theorem Task.exists_runsExactly
    {task : Task}
    {report : Report}
    (hDry : task.dryRun = false)
    (hLeaves : task.registry.LeavesFiles host session)
    (hReport : (task.run host session state).result = .ok report) :
    ∃ filter start reached unreached started,
      task.changeFilter host session state = (.ok filter, start) ∧
      RunsExactly host session task filter start
        (task.registry.select task.selection) reached unreached
        started report ∧
      Event.invocations (task.run host session state).events =
        started.map (Finished.invocation session) := by
  rcases Task.run_eq_of_result_eq_ok hReport with
    ⟨filter, start, hFilter, hRun⟩
  rw [hRun] at hReport ⊢
  rw [(runLinters_eq_turns _ start).2] at hReport
  rcases runsExactly_of_conclude_eq_ok hDry _
      (hLeaves.select task.selection) start report hReport with
    ⟨reached, unreached, hExact⟩
  exact
    ⟨filter, start, reached, unreached, _, hFilter, hExact,
      invocations_runLinters _ start⟩

end

------------------------------------------------------------
-- Commands
------------------------------------------------------------

namespace Options

variable {σ : Type}
variable {host : Host σ} {session entered : Session} {state : σ}
variable {options : Options} {task : Task}

/- A command whose task passes has a report without a failure. -/
theorem report_of_runTask_eq_true
    (hPassed :
      (options.runTask host entered task state).result = .ok true) :
    ∃ report,
      (task.run host entered state).result = .ok report ∧
      report.failed = .none := by
  unfold runTask at hPassed
  simp only at hPassed
  split at hPassed
  · cases hPassed
  · next report hReport =>
    refine ⟨report, hReport, ?_⟩
    split at hPassed
    · next hReportPassed =>
      simpa [Report.passed] using hReportPassed
    · cases hPassed

theorem invocations_runTask :
    Event.invocations
        (options.runTask host entered task state).events =
      Event.invocations (task.run host entered state).events := by
  unfold runTask
  simp only
  split
  · rfl
  · next report hReport =>
    split
    · rw [invocations_append]
      unfold summary
      split <;> simp [Event.invocations]
    · rfl

/- A command that passes without listing has passed its task. -/
theorem assignment_of_run_eq_true
    (hList : options.list = false)
    (hPassed : (options.run host session state).result = .ok true) :
    ∃ entered task report,
      options.assignment (host.files state) session =
        .ok (entered, task) ∧
      (task.run host entered state).result = .ok report ∧
      report.failed = .none ∧
      Event.invocations (options.run host session state).events =
        Event.invocations (task.run host entered state).events := by
  rcases @run_eq_of_not_list σ host session state options hList with
    ⟨warnings, hRun⟩
  rw [hRun] at hPassed ⊢
  split at hPassed
  · cases hPassed
  · next entered task hTask =>
    rcases report_of_runTask_eq_true hPassed with
      ⟨report, hReport, hUnfailed⟩
    refine ⟨entered, task, report, hTask, hReport, hUnfailed, ?_⟩
    have hWarnings :
        Event.invocations (warnings.map Event.warned) = [] := by
      simp [Event.invocations]
    simp only [Trace.behind, invocations_append, hWarnings,
      List.nil_append]
    exact invocations_runTask

end Options

------------------------------------------------------------
-- Exactness
------------------------------------------------------------

/-
  The linters selected are those of the languages asked for,
  or all of them.  A run that ends in a report amounts exactly
  to starting the selected linters that have files, each with
  its own arguments and then its files, up to the first
  failure.  A command that does not list and is no dry run exits with
  zero only if each selected linter that has files was
  started on all of them and passed.  Linters are taken to
  leave the files as they are; what else they do, and whether
  they answer twice alike, is left open.
-/
theorem run_starts_exactly_linters_with_files
    {σ : Type}
    (host : Host σ)
    (session : Session)
    (state : σ) :
    (∀ (registry : Registry) (selection : List Language),
      registry.select selection =
        registry.filter
          (fun linter => selection = [] ∨ linter.key ∈ selection)) ∧
    (∀ (task : Task) (report : Report),
      task.dryRun = false →
      task.registry.LeavesFiles host session →
      (task.run host session state).result = .ok report →
      ∃ filter start reached unreached started,
        task.changeFilter host session state = (.ok filter, start) ∧
        RunsExactly host session task filter start
          (task.registry.select task.selection) reached unreached
          started report ∧
        Event.invocations (task.run host session state).events =
          started.map (Finished.invocation session) ∧
        ∀ done ∈ started,
          (done.invocation session).program = done.program ∧
          (done.invocation session).args =
            done.linter.args ++ done.files) ∧
    (∀ (options : Options) (console : Console),
      options.list = false →
      options.dryRun = false →
      (∀ entered task,
        options.assignment (host.files state) session =
          .ok (entered, task) →
        task.registry.LeavesFiles host entered) →
      ((Exit.ofTrace console (options.run host session state)).code = 0 ↔
        (options.run host session state).result = .ok true) ∧
      ((options.run host session state).result = .ok true →
      ∃ entered task filter start,
      ∃ started : List Finished,
        options.assignment (host.files state) session =
          .ok (entered, task) ∧
        task.changeFilter host entered state = (.ok filter, start) ∧
        Event.invocations (options.run host session state).events =
          started.map (Finished.invocation entered) ∧
        (∀ done ∈ started,
          (done.invocation entered).program = done.program ∧
          (done.invocation entered).args =
            done.linter.args ++ done.files) ∧
        host.answers (started.map (Finished.invocation entered)) start =
          started.map (fun done => some done.completed) ∧
        ∀ linter ∈ task.registry.select task.selection,
          ∃ files,
            task.filesFor (host.files start) entered filter linter =
              .ok files ∧
            (files ≠ [] →
              ∃ done ∈ started,
                done.linter = linter ∧
                done.files = files ∧
                done.outcome.passed = true))) := by
  refine ⟨Registry.select_eq_filter, ?_, ?_⟩
  · intro task report hDry hLeaves hReport
    rcases Task.exists_runsExactly hDry hLeaves hReport with
      ⟨filter, start, reached, unreached, started, hFilter, hExact,
        hInvocations⟩
    exact
      ⟨filter, start, reached, unreached, started, hFilter, hExact,
        hInvocations, fun _ _ => ⟨rfl, rfl⟩⟩
  · intro options console hList hDry hLeaves
    refine ⟨Exit.code_ofTrace_eq_zero_iff console _, ?_⟩
    intro hPassed
    rcases Options.assignment_of_run_eq_true hList hPassed with
      ⟨entered, task, report, hTask, hReport, hUnfailed, hStarted⟩
    have hTaskDry : task.dryRun = false := by
      rw [Options.dryRun_of_assignment_eq_ok hTask, hDry]
    rcases Task.exists_runsExactly hTaskDry (hLeaves entered task hTask)
        hReport with
      ⟨filter, start, reached, unreached, started, hFilter, hExact,
        hInvocations⟩
    refine
      ⟨entered, task, filter, start, started, hTask, hFilter,
        hStarted.trans hInvocations, fun _ _ => ⟨rfl, rfl⟩,
        hExact.answers, ?_⟩
    intro linter hLinter
    exact hExact.passed_of_unfailed hUnfailed hLinter

------------------------------------------------------------
-- A Run That Fails At Its Second Linter
------------------------------------------------------------

namespace SecondFails

/- A directory with one file, and a program beside it. -/
def tree : FileTree where
  nodes :=
    [ (["w"], .directory),
      (["w", "x.h"], .file [] false),
      (["lint"], .file [] true) ]

/- The first program that is started passes, and no other one. -/
def host : Host Nat where
  files := fun _ => tree
  start := fun _ count =>
    (some ⟨some (if count = 0 then 0 else 1), [], []⟩, count + 1)

def session : Session := ⟨[], []⟩

/- The same linter for each language, which it is told. -/
def linter (key : Language) : Linter where
  key := key
  roots := ["/w"]
  extensions := ["h"]
  program := "/lint"
  args := ["--as", key.name]
  env := .empty
  cwd := none
  policy := .exitStatus

/- One linter is not selected, and one comes behind the failure. -/
def task : Task where
  registry :=
    [linter .cpp, linter .python, linter .javaScript, linter .python]
  blacklist := []
  sourceRoot := "/w"
  selection := [.javaScript, .python]
  onlyChanged := false
  dryRun := false

/- A linter that is started on the file as one of several. -/
def done (key : Language) (count : Nat) : Finished where
  linter := linter key
  files := ["/w/x.h"]
  program := "/lint"
  completed := ⟨some (if count = 0 then 0 else 1), [], []⟩

/- How the linter for a language is started on the file. -/
def call (key : Language) : Invocation where
  program := "/lint"
  args := ["--as", key.name, "/w/x.h"]
  env := []
  directory := "/"

theorem walk_root :
    tree.walk [] "/w" = [.file "/w/x.h"] := by
  have hRoot : tree.locateEntry [] "/w" = .ok ["w"] :=
    @FileTree.locateEntry_of_isPlain tree [] ["w"] .directory
      (by decide) rfl
  have hNames : tree.names ["w"] = ["x.h"] := by
    simp [FileTree.names, tree, FileTree.childName?]
    rfl
  exact FileTree.walk_of_lone_file hRoot rfl hNames rfl

theorem turnOf_linter
    (key : Language)
    (count : Nat) :
    TurnOf host session task .inactive (linter key) count
      (.finished (done key count)) (count + 1) := by
  have hAccepted : (linter key).accepts "/w/x.h" = true := by
    show Path.hasExtension "/w/x.h" ["h"] = true
    decide
  have hFiles :
      task.filesFor (host.files count) session .inactive (linter key) =
        .ok ["/w/x.h"] :=
    FileTree.filterFiles_of_lone_file walk_root hAccepted (by decide)
  have hProgram :
      Program.find? (host.files count) session (linter key).program =
        some "/lint" := by
    have hFile : tree.isProgram session.cwd "/lint" = true :=
      @FileTree.isProgram_of_isPlain tree [] ["lint"] [] (by decide) rfl
    show Program.find? tree session "/lint" = some "/lint"
    rw [Program.find?_of_isAbsolute tree session (by decide) (by decide),
      hFile]
    rfl
  exact .finished (by simp) hFiles rfl hProgram rfl

theorem run_task :
    task.run host session 0 =
      runLinters host session task .inactive
        [linter .python, linter .javaScript, linter .python] 0 :=
  rfl

theorem turns_task :
    turns host session task .inactive
        [linter .python, linter .javaScript, linter .python] 0 =
      [.finished (done .python 0), .finished (done .javaScript 1)] := by
  simp only [turns, (turnOf_linter _ _).takeTurn_eq]
  rfl

theorem result_run :
    (task.run host session 0).result =
      .ok ⟨[⟨.python, 1⟩, ⟨.javaScript, 1⟩], some .javaScript⟩ := by
  rw [run_task, (runLinters_eq_turns _ _).2, turns_task]
  rfl

end SecondFails

/- The second linter that is selected ends the run. -/
open SecondFails in
theorem second_linter_ends_run :
    task.registry.select task.selection =
      [linter .python, linter .javaScript, linter .python] ∧
    Event.invocations (task.run host session 0).events =
      [call .python, call .javaScript] ∧
    ∃ filter start reached unreached started,
      task.changeFilter host session 0 = (.ok filter, start) ∧
      RunsExactly host session task filter start
        (task.registry.select task.selection) reached unreached
        started
        ⟨[⟨.python, 1⟩, ⟨.javaScript, 1⟩], some .javaScript⟩ ∧
      Event.invocations (task.run host session 0).events =
        started.map (Finished.invocation session) ∧
      ∀ done ∈ started,
        (done.invocation session).program = done.program ∧
        (done.invocation session).args =
          done.linter.args ++ done.files := by
  rcases run_starts_exactly_linters_with_files host session 0 with
    ⟨hSelect, hReported, -⟩
  refine ⟨?_, ?_, ?_⟩
  · rw [hSelect]
    rfl
  · rw [run_task, invocations_runLinters, turns_task]
    rfl
  · exact
      hReported task _ rfl (fun _ _ _ _ _ => rfl) result_run

end TreeLint
