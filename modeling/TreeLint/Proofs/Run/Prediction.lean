import TreeLint.Proofs.Run.Exactness
import TreeLint.Proofs.Run.Stopping

/-
  What a dry run tells about the run.

  Key definitions include:
    * `LinterRun.announcement`
    * `Event.announcements`
    * `Announces`
    * `Task.withDryRun`
    * `Foretells`
    * `Predicts`

  Key theorems include:
    * `LinterRun.announcement_injective`
    * `foretells_turns`
    * `dry_run_predicts_run`

  A dry run and a run that starts linters look at the same
  files as long as the linters leave them alone.  So their
  turns go side by side: where the one describes a linter, the
  other starts it, and the run that starts linters is the one
  that may stop early.
-/

------------------------------------------------------------
-- Announcements
------------------------------------------------------------

namespace TreeLint

namespace LinterRun

/- The words in which a linter is announced. -/
def announcement (run : LinterRun) : String :=
  "linting " ++ toString run.files ++ " " ++ run.key.name ++ " "
    ++ Linter.filesNoun run.files

/- The words of an announcement, cut apart at its blanks. -/
theorem splitAt_announcement
    (run : LinterRun) :
    Text.splitAt ' ' run.announcement =
      ["linting", toString run.files, run.key.name,
        Linter.filesNoun run.files] := by
  have hCut :
      run.announcement =
        "linting" ++ String.singleton ' '
          ++ (toString run.files ++ String.singleton ' '
            ++ (run.key.name ++ String.singleton ' '
              ++ Linter.filesNoun run.files)) := by
    have hFirst : "linting " = "linting" ++ String.singleton ' ' := by
      decide
    have hBlank : " " = String.singleton ' ' := by decide
    rw [announcement, hFirst, hBlank]
    simp only [String.append_assoc]
  have hVerb : ' ' ∉ "linting".toList := by decide
  have hCount : ' ' ∉ (toString run.files).toList := by
    rw [Nat.toString_eq_ofList_toDigits, String.toList_ofList]
    intro hDigit
    have hIs := Nat.isDigit_of_mem_toDigits (by decide) (by decide) hDigit
    cases hIs
  have hName : ' ' ∉ run.key.name.toList := by
    cases run.key <;> decide
  have hNoun : ' ' ∉ (Linter.filesNoun run.files).toList := by
    unfold Linter.filesNoun
    split <;> decide
  rw [hCut]
  simp only [Path.splitAt_append_separator, Path.splitAt_of_not_mem hVerb,
    Path.splitAt_of_not_mem hCount, Path.splitAt_of_not_mem hName,
    Path.splitAt_of_not_mem hNoun]
  rfl

/- An announcement tells the linter and the number of files. -/
theorem announcement_injective
    {run other : LinterRun}
    (hSame : run.announcement = other.announcement) :
    run = other := by
  have hWords := congrArg (Text.splitAt ' ') hSame
  rw [splitAt_announcement, splitAt_announcement] at hWords
  simp only [List.cons.injEq, true_and, and_true] at hWords
  rcases hWords with ⟨hCount, hName, _⟩
  have hFiles : run.files = other.files := by
    have hDigits :=
      congrArg (fun text => Nat.ofDigitChars 10 text.toList 0) hCount
    simpa [Nat.toString_eq_ofList_toDigits,
      Nat.ofDigitChars_ten_toDigits] using hDigits
  have hKey : run.key = other.key := by
    have hLanguage := congrArg Language.ofName? hName
    simpa using hLanguage
  rcases run with ⟨key, files⟩
  rcases other with ⟨otherKey, otherFiles⟩
  cases hKey
  cases hFiles
  rfl

end LinterRun

namespace Event

/- The announcements in a sequence of events. -/
def announcements (events : List Event) : List String :=
  events.filterMap fun
    | announced message => some message
    | _ => none

/- The details of a description announce nothing. -/
theorem announcements_describe
    (linter : Linter)
    (sourceRoot : Path)
    (files : List Path) :
    announcements (linter.describe sourceRoot files) = [] := by
  simp [announcements, Linter.describe]

end Event

/- The linters that are announced in a sequence of events. -/
def Announces (events : List Event) (runs : List LinterRun) : Prop :=
  Event.announcements events = runs.map LinterRun.announcement

theorem Announces.unique
    {events : List Event}
    {runs others : List LinterRun}
    (hRuns : Announces events runs)
    (hOthers : Announces events others) :
    runs = others :=
  (List.map_inj_right fun _ _ => LinterRun.announcement_injective).mp
    (hRuns.symm.trans hOthers)

theorem announcements_events_turn
    (session : Session)
    (sourceRoot : Path)
    (turn : Turn) :
    Announces (turn.events session sourceRoot)
      turn.announced?.toList := by
  cases turn with
  | unlisted linter error => rfl
  | idle linter => rfl
  | described linter files =>
    have hNone := Event.announcements_describe linter sourceRoot files
    exact congrArg (List.cons _) hNone
  | stuck linter files error => rfl
  | finished done =>
    simp only [Turn.events, Turn.announced?]
    unfold Announces
    split <;> rfl

/- What a run announces can be read off its turns. -/
theorem announces_runLinters
    {σ : Type}
    (host : Host σ)
    (session : Session)
    (task : Task)
    (filter : ChangeFilter)
    (linters : List Linter)
    (state : σ) :
    Announces
      (runLinters host session task filter linters state).events
      ((turns host session task filter linters state).filterMap
        Turn.announced?) :=
  filterMap_events_runLinters
    (announcements_events_turn session task.sourceRoot) linters state

------------------------------------------------------------
-- Dry Runs
------------------------------------------------------------

/- The same task, as a dry run or not. -/
def Task.withDryRun (task : Task) (dryRun : Bool) : Task :=
  { task with dryRun }

/- A dry run asks for its change filter like any other run. -/
theorem Task.changeFilter_withDryRun
    {σ : Type}
    (task : Task)
    (dryRun : Bool)
    (host : Host σ)
    (session : Session)
    (state : σ) :
    (task.withDryRun dryRun).changeFilter host session state =
      task.changeFilter host session state :=
  rfl

section

variable {σ : Type}
variable {host : Host σ} {session : Session}
variable {task : Task} {filter : ChangeFilter}
variable {linters : List Linter} {state other : σ}

/- In a dry run no turn finishes. -/
theorem finished?_of_mem_turns
    {turn : Turn}
    (hDry : task.dryRun = true)
    (hTurn : turn ∈ turns host session task filter linters state) :
    turn.finished? = none := by
  rcases exists_turnOf_of_mem_turns hTurn with
    ⟨linter, _, before, after, hTurnOf⟩
  cases hTurnOf with
  | unlisted hFiles => rfl
  | idle hFiles => rfl
  | described hSome hFiles hDescribed => rfl
  | notFound hSome hFiles hReal hProgram => rfl
  | notStarted hSome hFiles hReal hProgram hStart => rfl
  | finished hSome hFiles hReal hProgram hStart =>
    rw [hDry] at hReal
    cases hReal

/- Where no turn finishes, no linter fails. -/
theorem failed_of_conclude_eq_ok
    {taken : List Turn}
    {report : Report}
    (hNone : ∀ turn ∈ taken, turn.finished? = none)
    (hReport : Turn.conclude taken = .ok report) :
    report.failed = none := by
  induction taken generalizing report with
  | nil =>
    cases hReport
    rfl
  | cons turn rest ih =>
    have hRest : ∀ later ∈ rest, later.finished? = none :=
      fun later hLater => hNone later (List.mem_cons_of_mem _ hLater)
    cases turn with
    | unlisted linter error => cases hReport
    | idle linter => exact ih hRest hReport
    | described linter files =>
      rcases Turn.exists_conclude_eq_ok rfl hReport with
        ⟨others, hOthers, rfl⟩
      show others.failed = none
      exact ih hRest hOthers
    | stuck linter files error => cases hReport
    | finished done =>
      have hFirst := hNone (.finished done) List.mem_cons_self
      cases hFirst

theorem unfailed_of_runLinters_eq_ok
    {report : Report}
    (hDry : task.dryRun = true)
    (hReport :
      (runLinters host session task filter linters state).result =
        .ok report) :
    report.failed = none := by
  rw [(runLinters_eq_turns linters state).2] at hReport
  exact
    failed_of_conclude_eq_ok
      (fun turn hTurn => finished?_of_mem_turns hDry hTurn) hReport

/- The report of a dry run names no linter that failed. -/
theorem Task.unfailed_of_run_eq_ok
    {report : Report}
    (hDry : task.dryRun = true)
    (hReport : (task.run host session state).result = .ok report) :
    report.failed = none := by
  cases hFilter : task.changeFilter host session state with
  | mk found start =>
    cases found with
    | error error =>
      rw [Task.run_eq_error hFilter] at hReport
      cases hReport
    | ok filter =>
      rw [Task.run_eq_runLinters hFilter] at hReport
      exact unfailed_of_runLinters_eq_ok hDry hReport

/- A dry run leaves the computer as it is. -/
theorem state_runLinters_of_dryRun
    (hDry : task.dryRun = true) :
    (runLinters host session task filter linters state).state =
      state := by
  induction linters with
  | nil => rfl
  | cons linter rest ih =>
    rcases @turns_cons σ host session task filter linter state with
      ⟨turn, after, hTurn, _⟩
    rw [runLinters_cons hTurn]
    cases hTurn with
    | unlisted hFiles => rfl
    | idle hFiles => exact ih
    | described hSome hFiles hDescribed => exact ih
    | notFound hSome hFiles hReal hProgram => rfl
    | notStarted hSome hFiles hReal hProgram hStart =>
      rw [hDry] at hReal
      cases hReal
    | finished hSome hFiles hReal hProgram hStart =>
      rw [hDry] at hReal
      cases hReal

/- A dry run starts no linter. -/
theorem invocations_runLinters_of_dryRun
    (hDry : task.dryRun = true) :
    Event.invocations
        (runLinters host session task filter linters state).events =
      [] := by
  have hNone :
      (turns host session task filter linters state).filterMap
          Turn.finished? = [] :=
    List.filterMap_eq_nil_iff.mpr fun turn hTurn =>
      finished?_of_mem_turns hDry hTurn
  rw [invocations_runLinters, hNone]
  rfl

end

------------------------------------------------------------
-- Turns Side By Side
------------------------------------------------------------

/-
  The turns of a dry run beside those of a run that starts
  linters.  The linter that is described on one side is started
  on the other, or would be.
-/
inductive Foretells : List Turn → List Turn → Prop where
  | nil : Foretells [] []
  | unlisted
      {linter : Linter}
      {error : WalkError} :
      Foretells [.unlisted linter error] [.unlisted linter error]
  | idle
      {linter : Linter}
      {dry real : List Turn}
      (hRest : Foretells dry real) :
      Foretells (.idle linter :: dry) (.idle linter :: real)
  | passed
      {done : Finished}
      {dry real : List Turn}
      (hPassed : done.outcome.passed = true)
      (hRest : Foretells dry real) :
      Foretells (.described done.linter done.files :: dry)
        (.finished done :: real)
  | failed
      {done : Finished}
      {dry : List Turn}
      (hFailed : done.outcome.passed = false) :
      Foretells (.described done.linter done.files :: dry)
        [.finished done]
  | stuck
      {linter : Linter}
      {files : List Path}
      {error : StartError}
      {dry : List Turn} :
      Foretells (.described linter files :: dry)
        [.stuck linter files error]

section

variable {σ : Type}
variable {host : Host σ} {session : Session}
variable {task : Task} {filter : ChangeFilter}

/-
  By induction on the linters.  The state of the dry run stays
  the same, and the files of the other run do too.
-/
theorem foretells_turns
    {linters : List Linter}
    {state other : σ}
    (hLeaves : Registry.LeavesFiles linters host session)
    (hSame : host.files other = host.files state) :
    Foretells
      (turns host session (task.withDryRun true) filter linters state)
      (turns host session (task.withDryRun false) filter linters
        other) := by
  induction linters generalizing other with
  | nil => exact .nil
  | cons linter rest ih =>
    have hRestLeaves : Registry.LeavesFiles rest host session :=
      fun later hLater =>
        hLeaves later (List.mem_cons_of_mem _ hLater)
    have hFilesFor :
        ∀ found,
          (task.withDryRun false).filesFor (host.files other) session
              filter linter = found →
          (task.withDryRun true).filesFor (host.files state) session
              filter linter = found := by
      intro found hFound
      rw [← hSame]
      exact hFound
    rcases @turns_cons σ host session (task.withDryRun false) filter
        linter other with
      ⟨turn, after, hTurn, hTurns⟩
    rw [hTurns rest]
    cases hTurn with
    | unlisted hFiles =>
      rw [turns, (TurnOf.unlisted (hFilesFor _ hFiles)).takeTurn_eq]
      exact .unlisted
    | idle hFiles =>
      rw [turns, (TurnOf.idle (hFilesFor _ hFiles)).takeTurn_eq]
      exact .idle (ih hRestLeaves hSame)
    | described hSome hFiles hDescribed => cases hDescribed
    | notFound hSome hFiles _ hProgram =>
      rw [turns,
        (TurnOf.described hSome (hFilesFor _ hFiles) rfl).takeTurn_eq]
      exact .stuck
    | notStarted hSome hFiles _ hProgram hStart =>
      rw [turns,
        (TurnOf.described hSome (hFilesFor _ hFiles) rfl).takeTurn_eq]
      exact .stuck
    | @finished files program completed _ hSome hFiles _ hProgram
        hStart =>
      let done : Finished := ⟨linter, files, program, completed⟩
      have hKept : host.files after = host.files state := by
        have hStarted :=
          hLeaves linter List.mem_cons_self program files other
        rw [hStart] at hStarted
        exact hStarted.trans hSame
      rw [turns,
        (TurnOf.described hSome (hFilesFor _ hFiles) rfl).takeTurn_eq]
      cases hPassed : done.outcome.passed with
      | false =>
        simp only [Turn.goesOn, done, hPassed]
        exact @Foretells.failed done _ hPassed
      | true =>
        simp only [Turn.goesOn, done, hPassed]
        exact @Foretells.passed done _ _ hPassed (ih hRestLeaves hKept)

/-
  As long as the dry run comes to a report, what the other run
  announces is a beginning of it, and all of it when no linter
  fails.
-/
theorem Foretells.announced_prefix
    {dry real : List Turn}
    {report : Report}
    (hTurns : Foretells dry real)
    (hReport : Turn.conclude dry = .ok report) :
    real.filterMap Turn.announced? <+: report.runs ∧
      ∀ done,
        Turn.conclude real = .ok done →
        done.failed = none →
        real.filterMap Turn.announced? = report.runs := by
  induction hTurns generalizing report with
  | nil =>
    cases hReport
    exact ⟨List.prefix_rfl, fun _ _ _ => rfl⟩
  | unlisted => cases hReport
  | idle hRest ih => exact ih hReport
  | @passed done dry real hPassed hRest ih =>
    rcases Turn.exists_conclude_eq_ok rfl hReport with
      ⟨others, hOthers, rfl⟩
    rcases ih hOthers with ⟨hPrefix, hAll⟩
    refine ⟨List.cons_prefix_cons.mpr ⟨rfl, hPrefix⟩, ?_⟩
    intro whole hWhole hUnfailed
    have hGoesOn : (Turn.finished done).goesOn = true := hPassed
    rcases Turn.exists_conclude_eq_ok hGoesOn hWhole with
      ⟨later, hLater, rfl⟩
    exact congrArg (List.cons _) (hAll later hLater hUnfailed)
  | @failed done dry hFailed =>
    rcases Turn.exists_conclude_eq_ok rfl hReport with
      ⟨others, _, rfl⟩
    refine
      ⟨List.cons_prefix_cons.mpr ⟨rfl, List.nil_prefix⟩, ?_⟩
    intro whole hWhole hUnfailed
    simp only [Turn.conclude, hFailed] at hWhole
    cases hWhole
    cases hUnfailed
  | stuck =>
    rcases Turn.exists_conclude_eq_ok rfl hReport with
      ⟨others, _, rfl⟩
    refine
      ⟨List.cons_prefix_cons.mpr ⟨rfl, List.nil_prefix⟩, ?_⟩
    intro whole hWhole
    cases hWhole

/-
  Where the dry run comes to an error, the other run comes to
  one too, unless a linter fails before.
-/
theorem Foretells.failed_ne_none
    {dry real : List Turn}
    {error : RunError}
    {done : Report}
    (hTurns : Foretells dry real)
    (hError : Turn.conclude dry = .error error)
    (hDone : Turn.conclude real = .ok done) :
    done.failed ≠ none := by
  induction hTurns generalizing done with
  | nil => cases hError
  | unlisted => cases hDone
  | idle hRest ih => exact ih hError hDone
  | @passed finished dry real hPassed hRest ih =>
    have hGoesOn : (Turn.finished finished).goesOn = true := hPassed
    rcases Turn.exists_conclude_eq_ok hGoesOn hDone with
      ⟨later, hLater, rfl⟩
    show later.failed ≠ none
    exact ih (Turn.conclude_eq_error rfl hError) hLater
  | failed hFailed =>
    simp only [Turn.conclude, hFailed] at hDone
    cases hDone
    simp
  | stuck => cases hDone

end

------------------------------------------------------------
-- Predictions
------------------------------------------------------------

/-
  What a dry run tells about a run.  An announcement stands for
  one linter and one number of files, so there is one way only
  to read what a run announces.
-/
structure Predicts
    {σ : Type}
    (dry real : Trace σ RunError Report) : Prop where
  startsNothing : Event.invocations dry.events = []
  unfailed : ∀ report, dry.result = .ok report → report.failed = none
  announces : ∃ runs, Announces real.events runs
  foretold :
    ∀ report runs,
      dry.result = .ok report →
      Announces real.events runs →
      runs <+: report.runs ∧
        ∀ done,
          real.result = .ok done →
          done.failed = none →
          runs = report.runs
  erring :
    ∀ error done,
      dry.result = .error error →
      real.result = .ok done →
      done.failed ≠ none

section

variable {σ : Type}
variable {host : Host σ} {session : Session} {state : σ}
variable {task : Task}

theorem predicts_runLinters
    {linters : List Linter}
    (hLeaves : Registry.LeavesFiles linters host session)
    (filter : ChangeFilter) :
    Predicts
      (runLinters host session (task.withDryRun true) filter linters
        state)
      (runLinters host session (task.withDryRun false) filter linters
        state) := by
  have hTurns :=
    @foretells_turns σ host session task filter linters state state
      hLeaves rfl
  have hDry :=
    (@runLinters_eq_turns σ host session (task.withDryRun true) filter
      linters state).2
  have hReal :=
    (@runLinters_eq_turns σ host session (task.withDryRun false) filter
      linters state).2
  have hAnnounces :=
    announces_runLinters host session (task.withDryRun false) filter
      linters state
  refine
    { startsNothing := invocations_runLinters_of_dryRun rfl
      unfailed := fun _ => unfailed_of_runLinters_eq_ok rfl
      announces := ⟨_, hAnnounces⟩
      foretold := ?_
      erring := ?_ }
  · intro report runs hReport hRuns
    rw [hDry] at hReport
    rw [hRuns.unique hAnnounces, hReal]
    exact hTurns.announced_prefix hReport
  · intro error done hError hDone
    rw [hDry] at hError
    rw [hReal] at hDone
    exact hTurns.failed_ne_none hError hDone

/- Where nothing has happened, an error foretells an error. -/
theorem predicts_of_error
    (error : RunError) :
    Predicts (⟨[], .error error, state⟩ : Trace σ RunError Report)
      ⟨[], .error error, state⟩ where
  startsNothing := rfl
  unfailed := by simp
  announces := ⟨[], rfl⟩
  foretold := by simp
  erring := by simp

end

/-
  A dry run leaves the computer as it is and tells what the run
  that starts linters does: for whatever change filter, and for
  the whole task, which asks for its filter in both runs alike.
  The linters are taken to leave the files as they are; what
  else they do, and how they answer, is left open.
-/
theorem dry_run_predicts_run
    {σ : Type}
    (host : Host σ)
    (session : Session)
    (state : σ)
    (task : Task)
    (hLeaves : task.registry.LeavesFiles host session) :
    (∀ filter,
      (runLinters host session (task.withDryRun true) filter
          (task.registry.select task.selection) state).state =
        state ∧
      Predicts
        (runLinters host session (task.withDryRun true) filter
          (task.registry.select task.selection) state)
        (runLinters host session (task.withDryRun false) filter
          (task.registry.select task.selection) state)) ∧
    Predicts ((task.withDryRun true).run host session state)
      ((task.withDryRun false).run host session state) := by
  have hSelected := hLeaves.select task.selection
  refine
    ⟨fun filter =>
      ⟨state_runLinters_of_dryRun rfl,
        predicts_runLinters hSelected filter⟩, ?_⟩
  cases hFilter : task.changeFilter host session state with
  | mk found start =>
    have hBoth :
        ∀ dryRun,
          (task.withDryRun dryRun).changeFilter host session state =
            (found, start) :=
      fun dryRun =>
        (task.changeFilter_withDryRun dryRun host session state).trans
          hFilter
    cases found with
    | error error =>
      rw [Task.run_eq_error (hBoth true), Task.run_eq_error (hBoth false)]
      exact predicts_of_error error
    | ok filter =>
      rw [Task.run_eq_runLinters (hBoth true),
        Task.run_eq_runLinters (hBoth false)]
      exact predicts_runLinters hSelected filter

------------------------------------------------------------
-- A Dry Run Beside A Run That Stops
------------------------------------------------------------

namespace MissingProgram

open LoneFile

theorem result_dry_run :
    ((task.withDryRun true).run host session 0).result =
      .ok ⟨[⟨.python, 1⟩, ⟨.python, 1⟩, ⟨.python, 1⟩], none⟩ := by
  have hRun :
      (task.withDryRun true).run host session 0 =
        runLinters host session (task.withDryRun true) .inactive
          [linter, missing, linter] 0 :=
    rfl
  have hLinter :
      TurnOf host session (task.withDryRun true) .inactive linter 0
        (.described linter ["/w/x.py"]) 0 :=
    .described (by simp) (filesFor_linter session) rfl
  have hMissing :
      TurnOf host session (task.withDryRun true) .inactive missing 0
        (.described missing ["/w/x.py"]) 0 :=
    .described (by simp) (filesFor_linter session) rfl
  rw [hRun, runLinters_cons hLinter, runLinters_cons hMissing,
    runLinters_cons hLinter]
  rfl

theorem announces_run :
    Announces ((task.withDryRun false).run host session 0).events
      [⟨.python, 1⟩, ⟨.python, 1⟩] := by
  have hRun :
      (task.withDryRun false).run host session 0 =
        runLinters host session task .inactive
          [linter, missing, linter] 0 :=
    rfl
  rw [hRun, runLinters_cons turnOf_linter, runLinters_cons turnOf_missing]
  rfl

end MissingProgram

open LoneFile MissingProgram in
theorem stopped_run_announces_beginning :
    MissingProgram.task.registry.LeavesFiles host session ∧
    ((MissingProgram.task.withDryRun true).run host session
        0).result =
      .ok ⟨[⟨.python, 1⟩, ⟨.python, 1⟩, ⟨.python, 1⟩], none⟩ ∧
    Announces
      ((MissingProgram.task.withDryRun false).run host session 0).events
      [⟨.python, 1⟩, ⟨.python, 1⟩] ∧
    ([⟨.python, 1⟩, ⟨.python, 1⟩] : List LinterRun) <+:
      [⟨.python, 1⟩, ⟨.python, 1⟩, ⟨.python, 1⟩] := by
  have hLeaves :
      MissingProgram.task.registry.LeavesFiles host session :=
    fun _ _ _ _ _ => rfl
  have hPredicts :=
    (dry_run_predicts_run host session 0 MissingProgram.task hLeaves).2
  exact
    ⟨hLeaves, result_dry_run, announces_run,
      (hPredicts.foretold _ _ result_dry_run announces_run).1⟩

end TreeLint
