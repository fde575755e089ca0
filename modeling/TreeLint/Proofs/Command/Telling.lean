import TreeLint.Proofs.Command.Verbosity
import TreeLint.Proofs.Linter.Reports

/-
  What a command tells about the linter that failed.

  Key definitions include:
    * `Event.diagnoses`

  Key theorems include:
    * `Event.stderr_eq_of_diagnoses`
    * `diagnoses_runLinters_of_failed`
    * `Options.stderr_runTask_of_failed`
    * `Task.told_of_failed`
    * `every_finding_told_once`

  The linter that fails has the last turn of its run, and only
  a turn of this kind puts anything on the error stream.  So
  the error stream of the command is what this linter told.
-/

------------------------------------------------------------
-- Diagnoses Among Events
------------------------------------------------------------

namespace TreeLint

namespace Event

/- What linters are said to have found, in order. -/
def diagnoses (events : List Event) : List String :=
  events.filterMap fun
    | diagnosed text => some text
    | _ => none

theorem diagnoses_append
    (before after : List Event) :
    diagnoses (before ++ after) = diagnoses before ++ diagnoses after :=
  List.filterMap_append

/- Nothing but diagnoses is on the error stream. -/
theorem stderr_eq_of_diagnoses
    (events : List Event) :
    stderr events = stderr ((diagnoses events).map diagnosed) := by
  have hLines :
      events.filterMap errorLine? =
        ((diagnoses events).map diagnosed).filterMap errorLine? := by
    rw [diagnoses, List.filterMap_map, List.filterMap_filterMap]
    congr 1
    funext event
    cases event <;> rfl
  unfold stderr
  rw [hLines]

end Event

------------------------------------------------------------
-- Turns
------------------------------------------------------------

/- To describe a linter is not to say that it found something. -/
theorem Linter.diagnoses_describe
    (linter : Linter)
    (sourceRoot : Path)
    (files : List Path) :
    Event.diagnoses (linter.describe sourceRoot files) = [] := by
  simp [Event.diagnoses, describe]

/- In a turn that goes on nothing is diagnosed. -/
theorem Turn.diagnoses_events_of_goesOn
    {turn : Turn}
    (session : Session)
    (sourceRoot : Path)
    (hGoesOn : turn.goesOn = true) :
    Event.diagnoses (turn.events session sourceRoot) = [] := by
  cases turn with
  | unlisted linter error => cases hGoesOn
  | idle linter => rfl
  | described linter files =>
    exact linter.diagnoses_describe sourceRoot files
  | stuck linter files error => cases hGoesOn
  | finished done =>
    have hPassed : done.outcome.passed = true := hGoesOn
    simp [events, Event.diagnoses, hPassed]

theorem Turn.failed_record
    (turn : Turn)
    (report : Report) :
    (turn.record report).failed = report.failed := by
  unfold record
  split <;> rfl

section

variable {σ : Type}
variable {host : Host σ} {session : Session}
variable {task : Task} {filter : ChangeFilter}

/-
  By induction on the linters: the turns in front of the one
  that fails go on, and it has none behind it.
-/
theorem diagnoses_runLinters_of_failed
    {linters : List Linter}
    {state : σ}
    {done : Finished}
    (hDone :
      .finished done ∈ turns host session task filter linters state)
    (hFailed : done.outcome.passed = false) :
    ∃ report,
      (runLinters host session task filter linters state).result =
        .ok report ∧
      report.failed = some done.linter.key ∧
      Event.diagnoses
          (runLinters host session task filter linters state).events =
        [done.outcome.diagnostics] := by
  induction linters generalizing state with
  | nil => cases hDone
  | cons linter rest ih =>
    rcases @turns_cons σ host session task filter linter state with
      ⟨turn, after, hTurn, hTurns⟩
    rw [hTurns rest] at hDone
    rw [runLinters_cons hTurn rest]
    rcases List.mem_cons.mp hDone with rfl | hLater
    · have hStops : (Turn.finished done).goesOn = false := hFailed
      rw [hStops, if_neg Bool.false_ne_true]
      refine ⟨⟨[done.entry], some done.linter.key⟩, ?_, rfl, ?_⟩
      · simp [Turn.conclude, hFailed]
      · simp [Turn.events, Event.diagnoses, hFailed]
    · split at hLater
      · next hGoesOn =>
        rw [if_pos hGoesOn]
        rcases ih hLater with ⟨report, hReport, hKey, hDiagnoses⟩
        refine ⟨turn.record report, ?_, ?_, ?_⟩
        · simp [Trace.behind, Trace.map, hReport, Except.map]
        · rw [Turn.failed_record, hKey]
        · simp only [Trace.behind, Trace.map, Event.diagnoses_append,
            Turn.diagnoses_events_of_goesOn session task.sourceRoot hGoesOn,
            hDiagnoses, List.nil_append]
      · cases hLater

end

------------------------------------------------------------
-- Commands
------------------------------------------------------------

/-
  Whatever the command is asked to print, and wherever, its
  error stream is that of its task when a linter has failed.
-/
theorem Options.stderr_runTask_of_failed
    {σ : Type}
    {host : Host σ}
    {session : Session}
    {task : Task}
    {state : σ}
    {report : Report}
    {key : Language}
    (options : Options)
    (console : Console)
    (hReport : (task.run host session state).result = .ok report)
    (hFailed : report.failed = some key) :
    (Exit.ofTrace console
        (options.runTask host session task state)).stderr =
      Event.stderr (task.run host session state).events := by
  have hPassed : report.passed = false := by
    simp [Report.passed, hFailed]
  simp [runTask, hReport, hPassed, Exit.ofTrace]

/-
  A run in which a linter fails tells what this linter has
  found, once, and nothing else; so does the command.
-/
theorem Task.told_of_failed
    {σ : Type}
    {host : Host σ}
    {session : Session}
    {task : Task}
    {filter : ChangeFilter}
    {state start : σ}
    {done : Finished}
    (hFilter :
      task.changeFilter host session state = (.ok filter, start))
    (hDone :
      .finished done ∈
        turns host session task filter
          (task.registry.select task.selection) start)
    (hFailed : done.outcome.passed = false) :
    let printed := Event.stderr [.diagnosed done.outcome.diagnostics]
    Event.diagnoses (task.run host session state).events =
      [done.outcome.diagnostics] ∧
    Event.stderr (task.run host session state).events = printed ∧
    ∀ (options : Options) (console : Console),
      (Exit.ofTrace console
        (options.runTask host session task state)).stderr =
          printed := by
  intro printed
  rcases diagnoses_runLinters_of_failed hDone hFailed with
    ⟨report, hReport, hKey, hDiagnoses⟩
  rw [← Task.run_eq_runLinters hFilter] at hReport hDiagnoses
  have hStderr :
      Event.stderr (task.run host session state).events = printed := by
    rw [Event.stderr_eq_of_diagnoses, hDiagnoses]
    rfl
  refine ⟨hDiagnoses, hStderr, ?_⟩
  intro options console
  rw [options.stderr_runTask_of_failed console hReport hKey, hStderr]

/-
  A linter that failed has told the lines that its policy
  reports.  All of them that are seen are printed, in order
  and each on its own; only the last one loses the white space
  at its end, and if there is none, nothing is printed.  This
  text is all that is printed on the error stream in a run in
  which the linter fails, and by the command, quiet or not.
  What the log writes there besides is told apart.
-/
theorem every_finding_told_once
    (policy : Policy)
    (exitCode : Option Int)
    (stdout stderr : String)
    (hFailed :
      (policy.interpret exitCode stdout stderr).passed = false) :
    let diagnostics :=
      (policy.interpret exitCode stdout stderr).diagnostics
    let found := Text.seen (policy.reported stdout stderr)
    let printed := Event.stderr [.diagnosed diagnostics]
    Text.seen (Text.fedLines printed.toList) = Text.lastTrimmed found ∧
    (printed = "" ↔ found = []) ∧
    ∀ {σ : Type} (host : Host σ) (session : Session) (task : Task)
      (filter : ChangeFilter) (state start : σ) (done : Finished),
      task.changeFilter host session state = (.ok filter, start) →
      .finished done ∈
        turns host session task filter
          (task.registry.select task.selection) start →
      done.outcome = policy.interpret exitCode stdout stderr →
      Event.diagnoses (task.run host session state).events =
        [diagnostics] ∧
      Event.stderr (task.run host session state).events = printed ∧
      ∀ (options : Options) (console : Console),
        (Exit.ofTrace console
          (options.runTask host session task state)).stderr =
          printed := by
  intro diagnostics found printed
  have hDiagnostics : diagnostics = policy.told stdout stderr :=
    Policy.diagnostics_interpret hFailed
  have hFound :
      Text.seen (Text.fedLines diagnostics.toList) = found := by
    rw [hDiagnostics]
    exact policy.seen_told stdout stderr
  refine ⟨?_, ?_, ?_⟩
  · rw [← hFound]
    exact Event.seen_stderr_diagnosed diagnostics
  · rw [← hFound]
    exact Event.stderr_diagnosed_eq_empty_iff diagnostics
  · intro σ host session task filter state start done hFilter hDone
      hOutcome
    have hDoneFailed : done.outcome.passed = false := by
      rw [hOutcome]
      exact hFailed
    have hTold := Task.told_of_failed hFilter hDone hDoneFailed
    rw [hOutcome] at hTold
    exact hTold

/-
  Findings on both streams of a linter that should have been
  quiet, and those of a whole run.
-/
open FindingLinter in
theorem last_finding_trimmed_and_told :
    (Policy.quiet.interpret (some 0) "out  \n\nend"
        "also \n \n").passed = false ∧
    Text.seen (Text.fedLines
        (Event.stderr
          [.diagnosed
            (Policy.quiet.interpret (some 0) "out  \n\nend"
              "also \n \n").diagnostics]).toList) =
      ["out  ".toList, "end".toList, "also".toList] ∧
    Event.stderr (task.run host session ()).events = "x.h:1: bad\n" ∧
    ∀ (options : Options) (console : Console),
      (Exit.ofTrace console
        (options.runTask host session task ())).stderr =
        "x.h:1: bad\n" := by
  have hNoisy :
      (Policy.quiet.interpret (some 0) "out  \n\nend"
        "also \n \n").passed = false := by
    decide
  have hFailed :
      (Policy.cpplint.interpret (some 1) "" finding).passed = false := by
    decide
  have hFilter :
      task.changeFilter host session () = (.ok .inactive, ()) :=
    rfl
  have hDone :
      .finished ⟨linter, ["/w/atom/x.h"], "/bin/cpplint.py", completed⟩ ∈
        turns host session task .inactive
          (task.registry.select task.selection) () := by
    have hSelected : task.registry.select task.selection = [linter] := rfl
    rw [hSelected]
    simp only [turns, turnOf_linter.takeTurn_eq]
    exact List.mem_cons_self
  have hOutcome :
      linter.verdict completed =
        Policy.cpplint.interpret (some 1) "" finding := by
    decide +kernel
  have hPrinted :
      Event.stderr
          [.diagnosed
            (Policy.cpplint.interpret (some 1) "" finding).diagnostics] =
        "x.h:1: bad\n" := by
    decide
  have hLines :=
    (every_finding_told_once .quiet (some 0) "out  \n\nend"
      "also \n \n" hNoisy).1
  rcases (every_finding_told_once .cpplint (some 1) "" finding
      hFailed).2.2 host session task .inactive () () _ hFilter hDone
      hOutcome with
    ⟨_, hStderr, hCommand⟩
  rw [hPrinted] at hStderr
  refine ⟨hNoisy, hLines.trans (by decide), hStderr, ?_⟩
  intro options console
  rw [hCommand options console, hPrinted]

end TreeLint
