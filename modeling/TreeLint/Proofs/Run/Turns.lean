import TreeLint.Run.Execution

/-
  A run as a list of turns.

  Key definitions include:
    * `Task.filesFor`
    * `Finished`
    * `Turn`
    * `takeTurn`
    * `TurnOf`
    * `turns`
    * `Turn.announced?`
    * `Turn.conclude`

  Key theorems include:
    * `turnOf_takeTurn`
    * `TurnOf.takeTurn_eq`
    * `exists_turnOf_of_mem_turns`
    * `runLinters_cons`
    * `runLinters_eq_turns`
    * `filterMap_events_runLinters`

  What happens during a run is cut into the turns of the
  linters.  One turn is what a linter comes to in one state
  of the computer; the turns of a run stop with the first one
  that ends it.  The events of a run and its result are read
  off its turns, so a property of runs is a property of one
  turn carried through the list.
-/

------------------------------------------------------------
-- Turns
------------------------------------------------------------

namespace TreeLint

theorem Trace.map_id
    {σ ε α : Type}
    (trace : Trace σ ε α) :
    trace.map id = trace := by
  cases trace with
  | mk events result state => cases result <;> rfl

/- The files on which a linter is to be run. -/
def Task.filesFor
    (task : Task)
    (t : FileTree)
    (session : Session)
    (filter : ChangeFilter)
    (linter : Linter) : Except WalkError (List Path) :=
  t.filterFiles session.cwd linter.accepts task.blacklist filter
    linter.roots

/- A linter that was started, and what it left behind. -/
structure Finished where
  linter : Linter
  files : List Path
  /- Where its program was found. -/
  program : Path
  completed : Completed

namespace Finished

/- How the linter was started. -/
def invocation (session : Session) (finished : Finished) : Invocation :=
  finished.linter.invocation session finished.program finished.files

/- The verdict on the linter. -/
def outcome (finished : Finished) : Outcome :=
  finished.linter.verdict finished.completed

/- The line about the linter in a report. -/
def entry (finished : Finished) : LinterRun :=
  ⟨finished.linter.key, finished.files.length⟩

end Finished

/- What it comes to when it is the turn of a linter. -/
inductive Turn where
  /- The files below its roots cannot be listed. -/
  | unlisted (linter : Linter) (error : WalkError)
  /- It has no files. -/
  | idle (linter : Linter)
  /- It is described and not started. -/
  | described (linter : Linter) (files : List Path)
  /- It has files but cannot be started. -/
  | stuck (linter : Linter) (files : List Path) (error : StartError)
  | finished (finished : Finished)

namespace Turn

/- Whose turn it is. -/
def linter : Turn → Linter
  | unlisted linter _ => linter
  | idle linter => linter
  | described linter _ => linter
  | stuck linter _ _ => linter
  | finished done => done.linter

/- The files that are found for it. -/
def files : Turn → List Path
  | unlisted _ _ => []
  | idle _ => []
  | described _ files => files
  | stuck _ files _ => files
  | finished done => done.files

/- Whether the next linter gets its turn. -/
def goesOn : Turn → Bool
  | unlisted _ _ => false
  | idle _ => true
  | described _ _ => true
  | stuck _ _ _ => false
  | finished done => done.outcome.passed

/- The linter that was started, if one was. -/
def finished? : Turn → Option Finished
  | finished done => some done
  | _ => none

/- The linter that is announced, with how many files. -/
def announced? : Turn → Option LinterRun
  | unlisted _ _ => none
  | idle _ => none
  | described linter files => some ⟨linter.key, files.length⟩
  | stuck linter files _ => some ⟨linter.key, files.length⟩
  | finished done => some done.entry

/- A report with the turn in front of it. -/
def record (turn : Turn) (report : Report) : Report :=
  match turn.announced? with
  | some first => report.after first
  | none => report

/- What happens during a turn. -/
def events (session : Session) (sourceRoot : Path) : Turn → List Event
  | unlisted _ _ => []
  | idle _ => []
  | described linter files =>
    .announced (linter.announcement files.length)
      :: linter.describe sourceRoot files
  | stuck linter files _ =>
    [.announced (linter.announcement files.length)]
  | finished done =>
    .announced (done.linter.announcement done.files.length)
      :: .started (done.invocation session)
      :: if done.outcome.passed then []
        else [.diagnosed done.outcome.diagnostics]

/- How a run ends whose turns are given. -/
def conclude : List Turn → Except RunError Report
  | [] => .ok Report.empty
  | unlisted _ error :: _ => .error (.walk error)
  | idle _ :: rest => conclude rest
  | described linter files :: rest =>
    (conclude rest).map (Report.after ⟨linter.key, files.length⟩)
  | stuck _ _ error :: _ => .error (.start error)
  | finished done :: rest =>
    if done.outcome.passed then
      (conclude rest).map (Report.after done.entry)
    else
      .ok ⟨[done.entry], some done.linter.key⟩

theorem record_idle
    (linter : Linter) :
    (idle linter).record = id :=
  rfl

theorem record_described
    (linter : Linter)
    (files : List Path) :
    (described linter files).record =
      Report.after ⟨linter.key, files.length⟩ :=
  rfl

theorem record_finished
    (done : Finished) :
    (finished done).record = Report.after done.entry :=
  rfl

/-
  A turn that goes on is recorded in the end that the others
  come to; any other turn is the end itself.
-/
theorem conclude_cons
    (turn : Turn)
    (rest : List Turn) :
    conclude (turn :: rest) =
      if turn.goesOn then (conclude rest).map turn.record
      else conclude [turn] := by
  cases turn with
  | unlisted linter error => rfl
  | idle linter =>
    show conclude rest = (conclude rest).map id
    cases conclude rest <;> rfl
  | described linter files => rfl
  | stuck linter files error => rfl
  | finished done =>
    simp only [conclude, goesOn]
    split <;> rfl

/- A report with a turn that goes on comes from the others. -/
theorem exists_conclude_eq_ok
    {turn : Turn}
    {rest : List Turn}
    {report : Report}
    (hGoesOn : turn.goesOn = true)
    (hReport : conclude (turn :: rest) = .ok report) :
    ∃ others,
      conclude rest = .ok others ∧ report = turn.record others := by
  rw [conclude_cons, if_pos hGoesOn] at hReport
  cases hRest : conclude rest with
  | error error =>
    rw [hRest] at hReport
    cases hReport
  | ok others =>
    rw [hRest] at hReport
    exact ⟨others, rfl, (Except.ok.inj hReport).symm⟩

/- So does an error behind it. -/
theorem conclude_eq_error
    {turn : Turn}
    {rest : List Turn}
    {error : RunError}
    (hGoesOn : turn.goesOn = true)
    (hError : conclude (turn :: rest) = .error error) :
    conclude rest = .error error := by
  rw [conclude_cons, if_pos hGoesOn] at hError
  cases hRest : conclude rest with
  | error found =>
    rw [hRest] at hError
    exact hError
  | ok others =>
    rw [hRest] at hError
    cases hError

end Turn

------------------------------------------------------------
-- Taking Turns
------------------------------------------------------------

section

variable {σ : Type}
variable (host : Host σ) (session : Session)
variable (task : Task) (filter : ChangeFilter)

/- The turn of one linter, and the state in which it ends. -/
def takeTurn (linter : Linter) (state : σ) : Turn × σ :=
  match task.filesFor (host.files state) session filter linter with
  | .error error => (.unlisted linter error, state)
  | .ok [] => (.idle linter, state)
  | .ok (file :: others) =>
    if task.dryRun then
      (.described linter (file :: others), state)
    else
      match Program.find? (host.files state) session linter.program with
      | none =>
        (.stuck linter (file :: others)
          (.programNotFound linter.key linter.program), state)
      | some program =>
        match host.start
            (linter.invocation session program (file :: others))
            state with
        | (none, after) =>
          (.stuck linter (file :: others)
            (.programNotStarted program), after)
        | (some completed, after) =>
          (.finished ⟨linter, file :: others, program, completed⟩,
            after)

/- The turns of linters up to the first one that ends the run. -/
def turns : List Linter → σ → List Turn
  | [], _ => []
  | linter :: rest, state =>
    let taken := takeTurn host session task filter linter state
    taken.1 :: if taken.1.goesOn then turns rest taken.2 else []

end

------------------------------------------------------------
-- One Turn
------------------------------------------------------------

section

variable {σ : Type}
variable {host : Host σ} {session : Session}
variable {task : Task} {filter : ChangeFilter}

/- Everything that the turn of a linter can come to. -/
inductive TurnOf
    (host : Host σ)
    (session : Session)
    (task : Task)
    (filter : ChangeFilter)
    (linter : Linter)
    (state : σ) : Turn → σ → Prop where
  | unlisted
      {error : WalkError}
      (hFiles :
        task.filesFor (host.files state) session filter linter =
          .error error) :
      TurnOf host session task filter linter state
        (.unlisted linter error) state
  | idle
      (hFiles :
        task.filesFor (host.files state) session filter linter =
          .ok []) :
      TurnOf host session task filter linter state
        (.idle linter) state
  | described
      {files : List Path}
      (hSome : files ≠ [])
      (hFiles :
        task.filesFor (host.files state) session filter linter =
          .ok files)
      (hDry : task.dryRun = true) :
      TurnOf host session task filter linter state
        (.described linter files) state
  | notFound
      {files : List Path}
      (hSome : files ≠ [])
      (hFiles :
        task.filesFor (host.files state) session filter linter =
          .ok files)
      (hDry : task.dryRun = false)
      (hProgram :
        Program.find? (host.files state) session linter.program =
          none) :
      TurnOf host session task filter linter state
        (.stuck linter files
          (.programNotFound linter.key linter.program)) state
  | notStarted
      {files : List Path}
      {program : Path}
      {after : σ}
      (hSome : files ≠ [])
      (hFiles :
        task.filesFor (host.files state) session filter linter =
          .ok files)
      (hDry : task.dryRun = false)
      (hProgram :
        Program.find? (host.files state) session linter.program =
          some program)
      (hStart :
        host.start (linter.invocation session program files) state =
          (none, after)) :
      TurnOf host session task filter linter state
        (.stuck linter files (.programNotStarted program)) after
  | finished
      {files : List Path}
      {program : Path}
      {completed : Completed}
      {after : σ}
      (hSome : files ≠ [])
      (hFiles :
        task.filesFor (host.files state) session filter linter =
          .ok files)
      (hDry : task.dryRun = false)
      (hProgram :
        Program.find? (host.files state) session linter.program =
          some program)
      (hStart :
        host.start (linter.invocation session program files) state =
          (some completed, after)) :
      TurnOf host session task filter linter state
        (.finished ⟨linter, files, program, completed⟩) after

theorem turnOf_takeTurn
    (linter : Linter)
    (state : σ) :
    TurnOf host session task filter linter state
      (takeTurn host session task filter linter state).1
      (takeTurn host session task filter linter state).2 := by
  cases hFiles :
      task.filesFor (host.files state) session filter linter with
  | error error =>
    simpa [takeTurn, hFiles] using TurnOf.unlisted hFiles
  | ok files =>
    cases files with
    | nil => simpa [takeTurn, hFiles] using TurnOf.idle hFiles
    | cons file others =>
      have hSome : file :: others ≠ [] := List.cons_ne_nil _ _
      cases hDry : task.dryRun with
      | true =>
        simpa [takeTurn, hFiles, hDry] using
          TurnOf.described hSome hFiles hDry
      | false =>
        cases hProgram :
            Program.find? (host.files state) session
              linter.program with
        | none =>
          simpa [takeTurn, hFiles, hDry, hProgram] using
            TurnOf.notFound hSome hFiles hDry hProgram
        | some program =>
          cases hStart :
              host.start
                (linter.invocation session program (file :: others))
                state with
          | mk answer after =>
            cases answer with
            | none =>
              simpa [takeTurn, hFiles, hDry, hProgram, hStart] using
                TurnOf.notStarted hSome hFiles hDry hProgram hStart
            | some completed =>
              simpa [takeTurn, hFiles, hDry, hProgram, hStart] using
                TurnOf.finished hSome hFiles hDry hProgram hStart

/- A turn comes to one thing only. -/
theorem TurnOf.takeTurn_eq
    {linter : Linter}
    {state after : σ}
    {turn : Turn}
    (hTurn : TurnOf host session task filter linter state turn after) :
    takeTurn host session task filter linter state =
      (turn, after) := by
  cases hTurn with
  | unlisted hFiles => simp [takeTurn, hFiles]
  | idle hFiles => simp [takeTurn, hFiles]
  | @described files hSome hFiles hDry =>
    cases files with
    | nil => exact absurd rfl hSome
    | cons file others => simp [takeTurn, hFiles, hDry]
  | @notFound files hSome hFiles hDry hProgram =>
    cases files with
    | nil => exact absurd rfl hSome
    | cons file others => simp [takeTurn, hFiles, hDry, hProgram]
  | @notStarted files program after hSome hFiles hDry hProgram hStart =>
    cases files with
    | nil => exact absurd rfl hSome
    | cons file others =>
      simp [takeTurn, hFiles, hDry, hProgram, hStart]
  | @finished files program completed after hSome hFiles hDry hProgram
      hStart =>
    cases files with
    | nil => exact absurd rfl hSome
    | cons file others =>
      simp [takeTurn, hFiles, hDry, hProgram, hStart]

/-
  Linters with one in front: it takes its turn, and the others
  take theirs in the state it ends in, if it goes on.
-/
theorem turns_cons
    (linter : Linter)
    (state : σ) :
    ∃ turn after,
      TurnOf host session task filter linter state turn after ∧
      ∀ rest,
        turns host session task filter (linter :: rest) state =
          turn :: if turn.goesOn
            then turns host session task filter rest after else [] :=
  ⟨_, _, turnOf_takeTurn linter state, fun _ => rfl⟩

/- Every turn of a run is the turn of one of its linters. -/
theorem exists_turnOf_of_mem_turns
    {linters : List Linter}
    {state : σ}
    {turn : Turn}
    (hTurn : turn ∈ turns host session task filter linters state) :
    ∃ linter ∈ linters, ∃ before after,
      TurnOf host session task filter linter before turn after := by
  induction linters generalizing state with
  | nil => cases hTurn
  | cons linter rest ih =>
    rcases @turns_cons σ host session task filter linter state with
      ⟨first, after, hFirst, hTurns⟩
    rw [hTurns rest] at hTurn
    rcases List.mem_cons.mp hTurn with rfl | hLater
    · exact ⟨linter, List.mem_cons_self, state, after, hFirst⟩
    · split at hLater
      · rcases ih hLater with ⟨other, hOther, hTurnOf⟩
        exact ⟨other, List.mem_cons_of_mem _ hOther, hTurnOf⟩
      · cases hLater

end

------------------------------------------------------------
-- Runs Are Turns
------------------------------------------------------------

section

variable {σ : Type}
variable {host : Host σ} {session : Session}
variable {task : Task} {filter : ChangeFilter}

/-
  A run with a linter in front, by what its turn comes to.  The
  cases of the turn are the branches of the run.
-/
theorem runLinters_cons
    {linter : Linter}
    {state after : σ}
    {turn : Turn}
    (hTurn : TurnOf host session task filter linter state turn after)
    (rest : List Linter) :
    runLinters host session task filter (linter :: rest) state =
      if turn.goesOn then
        ((runLinters host session task filter rest after).map
          turn.record).behind (turn.events session task.sourceRoot)
      else
        ⟨turn.events session task.sourceRoot, Turn.conclude [turn],
          after⟩ := by
  rw [runLinters]
  cases hTurn with
  | unlisted hFiles =>
    unfold Task.filesFor at hFiles
    simp [hFiles, Turn.goesOn, Turn.events, Turn.conclude]
  | idle hFiles =>
    unfold Task.filesFor at hFiles
    simp [hFiles, Turn.goesOn, Turn.events, Trace.behind,
      Trace.map_id, Turn.record_idle]
  | @described files hSome hFiles hDry =>
    unfold Task.filesFor at hFiles
    cases files with
    | nil => exact absurd rfl hSome
    | cons file others =>
      simp [hFiles, hDry, Turn.goesOn, Turn.events, Turn.record_described]
  | @notFound files hSome hFiles hDry hProgram =>
    unfold Task.filesFor at hFiles
    cases files with
    | nil => exact absurd rfl hSome
    | cons file others =>
      simp [hFiles, hDry, hProgram, Linter.run, Turn.goesOn,
        Turn.events, Turn.conclude]
  | @notStarted files program after hSome hFiles hDry hProgram
      hStart =>
    unfold Task.filesFor at hFiles
    cases files with
    | nil => exact absurd rfl hSome
    | cons file others =>
      simp [hFiles, hDry, hProgram, hStart, Linter.run, Turn.goesOn,
        Turn.events, Turn.conclude]
  | @finished files program completed after hSome hFiles hDry
      hProgram hStart =>
    unfold Task.filesFor at hFiles
    cases files with
    | nil => exact absurd rfl hSome
    | cons file others =>
      cases hPassed : (linter.verdict completed).passed with
      | true =>
        simp [hFiles, hDry, hProgram, hStart, hPassed, Linter.run,
          Turn.goesOn, Turn.events, Turn.record_finished,
          Finished.outcome, Finished.invocation, Finished.entry]
      | false =>
        simp [hFiles, hDry, hProgram, hStart, hPassed, Linter.run,
          Turn.goesOn, Turn.events, Turn.conclude, Finished.outcome,
          Finished.invocation, Finished.entry]

/-
  The events and the result of a run, both read off its turns,
  by induction on the linters.
-/
theorem runLinters_eq_turns
    (linters : List Linter)
    (state : σ) :
    (runLinters host session task filter linters state).events =
        (turns host session task filter linters state).flatMap
          (Turn.events session task.sourceRoot) ∧
      (runLinters host session task filter linters state).result =
        Turn.conclude
          (turns host session task filter linters state) := by
  induction linters generalizing state with
  | nil => exact ⟨rfl, rfl⟩
  | cons linter rest ih =>
    rcases @turns_cons σ host session task filter linter state with
      ⟨turn, after, hTurn, hTurns⟩
    rw [hTurns rest, runLinters_cons hTurn rest]
    cases hGoesOn : turn.goesOn with
    | false => simp
    | true =>
      rw [if_pos rfl, if_pos rfl, Turn.conclude_cons, hGoesOn]
      simp [Trace.behind, Trace.map, ih after]

/- A task with a change filter runs the linters it selects. -/
theorem Task.run_eq_runLinters
    {state start : σ}
    (hFilter :
      task.changeFilter host session state = (.ok filter, start)) :
    task.run host session state =
      runLinters host session task filter
        (task.registry.select task.selection) start := by
  unfold Task.run
  rw [hFilter]

/- A task without one runs none. -/
theorem Task.run_eq_error
    {state start : σ}
    {error : RunError}
    (hFilter :
      task.changeFilter host session state = (.error error, start)) :
    task.run host session state = ⟨[], .error error, start⟩ := by
  unfold Task.run
  rw [hFilter]

------------------------------------------------------------
-- What Is Seen Of A Run
------------------------------------------------------------

/-
  Whatever is picked out of the events of single turns, by what
  they come to, is picked out of the events of a run by its
  turns.
-/
theorem filterMap_events_runLinters
    {α β : Type}
    {pick : Event → Option α}
    {taken : Turn → Option β}
    {shown : β → α}
    (hTurn :
      ∀ turn : Turn,
        (turn.events session task.sourceRoot).filterMap pick =
          (taken turn).toList.map shown)
    (linters : List Linter)
    (state : σ) :
    (runLinters host session task filter linters state).events.filterMap
        pick =
      ((turns host session task filter linters state).filterMap
        taken).map shown := by
  rw [(runLinters_eq_turns linters state).1]
  induction turns host session task filter linters state with
  | nil => rfl
  | cons turn rest ih =>
    rw [List.flatMap_cons, List.filterMap_append, ih, hTurn]
    cases hTaken : taken turn <;> simp [hTaken]

theorem invocations_append
    (before after : List Event) :
    Event.invocations (before ++ after) =
      Event.invocations before ++ Event.invocations after :=
  List.filterMap_append

/- Describing a linter starts nothing. -/
theorem invocations_describe
    (linter : Linter)
    (sourceRoot : Path)
    (files : List Path) :
    Event.invocations (linter.describe sourceRoot files) = [] := by
  simp [Event.invocations, Linter.describe]

theorem invocations_events_turn
    (session : Session)
    (sourceRoot : Path)
    (turn : Turn) :
    Event.invocations (turn.events session sourceRoot) =
      turn.finished?.toList.map (Finished.invocation session) := by
  cases turn with
  | unlisted linter error => rfl
  | idle linter => rfl
  | described linter files =>
    exact invocations_describe linter sourceRoot files
  | stuck linter files error => rfl
  | finished done =>
    simp only [Turn.events, Turn.finished?]
    split <;> rfl

/- The linters that a run starts are those that finish a turn. -/
theorem invocations_runLinters
    (linters : List Linter)
    (state : σ) :
    Event.invocations
        (runLinters host session task filter linters state).events =
      ((turns host session task filter linters state).filterMap
        Turn.finished?).map (Finished.invocation session) :=
  filterMap_events_runLinters
    (invocations_events_turn session task.sourceRoot) linters state

end

end TreeLint
