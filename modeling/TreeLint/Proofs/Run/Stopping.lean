import Mathlib.Logic.ExistsUnique
import TreeLint.Proofs.Run.Feeding

/-
  Runs that end in an error.

  Key definitions include:
    * `Task.FindsNoChanges`
    * `Passes`
    * `Raises`
    * `StopsAt`

  Key theorems include:
    * `Passes.runLinters_append`
    * `StopsAt.runLinters_append`
    * `exists_stopsAt_of_result_eq_error`
    * `erring_run_stops_at_one_linter`

  An error ends a run either before any linter has its turn,
  or at one of the linters.  In the second case the linters in
  front of it have passed, and it makes no difference to the
  run what linters there are behind it.
-/

------------------------------------------------------------
-- How A Run Ends In An Error
------------------------------------------------------------

namespace TreeLint

/- The ways in which a task comes to no change filter. -/
inductive Task.FindsNoChanges
    {σ : Type}
    (task : Task)
    (host : Host σ)
    (session : Session)
    (state : σ) : RunError → Prop where
  | discovery
      {reason : Repository.DiscoveryError}
      (hChanged : task.onlyChanged = true)
      (hTop :
        Repository.discover (host.files state) session
          task.sourceRoot = .error reason) :
      FindsNoChanges task host session state (.discovery reason)
  | query
      {top : Path}
      {reason : Changes.QueryError}
      (hChanged : task.onlyChanged = true)
      (hTop :
        Repository.discover (host.files state) session
          task.sourceRoot = .ok top)
      (hQuery :
        (Changes.query host session top state).1 = .error reason) :
      FindsNoChanges task host session state (.query reason)

/-
  Linters that pass one after another, from one state of the
  computer to another.  One without files is passed over; one
  with files is started on them once.
-/
inductive Passes
    {σ : Type}
    (host : Host σ)
    (session : Session)
    (task : Task)
    (filter : ChangeFilter) :
    List Linter → σ → List Finished → σ → Prop where
  | nil
      {state : σ} :
      Passes host session task filter [] state [] state
  | idle
      {linter : Linter}
      {rest : List Linter}
      {state after : σ}
      {started : List Finished}
      (hFiles :
        task.filesFor (host.files state) session filter linter =
          .ok [])
      (hRest :
        Passes host session task filter rest state started after) :
      Passes host session task filter (linter :: rest) state started
        after
  | passed
      {done : Finished}
      {rest : List Linter}
      {state next after : σ}
      {started : List Finished}
      (hSome : done.files ≠ [])
      (hFiles :
        task.filesFor (host.files state) session filter done.linter =
          .ok done.files)
      (hProgram :
        Program.find? (host.files state) session done.linter.program =
          some done.program)
      (hStart :
        host.start (done.invocation session) state =
          (some done.completed, next))
      (hPassed : done.outcome.passed = true)
      (hRest :
        Passes host session task filter rest next started after) :
      Passes host session task filter (done.linter :: rest) state
        (done :: started) after

/-
  The error that a linter raises when it is its turn, with the
  events of the turn: it is announced once it has files.
-/
inductive Raises
    {σ : Type}
    (host : Host σ)
    (session : Session)
    (task : Task)
    (filter : ChangeFilter)
    (linter : Linter)
    (state : σ) : RunError → List Event → Prop where
  | walk
      {root path : Path}
      {fault : WalkFault}
      (hRoot : root ∈ linter.roots)
      (hFault :
        .fault fault path ∈
          (host.files state).walk session.cwd root)
      (hFiles :
        task.filesFor (host.files state) session filter linter =
          .error ⟨root, fault, path⟩) :
      Raises host session task filter linter state
        (.walk ⟨root, fault, path⟩) []
  | notFound
      {files : List Path}
      (hSome : files ≠ [])
      (hFiles :
        task.filesFor (host.files state) session filter linter =
          .ok files)
      (hProgram :
        Program.find? (host.files state) session linter.program =
          none) :
      Raises host session task filter linter state
        (.start (.programNotFound linter.key linter.program))
        [.announced (linter.announcement files.length)]
  | notStarted
      {files : List Path}
      {program : Path}
      {after : σ}
      (hSome : files ≠ [])
      (hFiles :
        task.filesFor (host.files state) session filter linter =
          .ok files)
      (hProgram :
        Program.find? (host.files state) session linter.program =
          some program)
      (hStart :
        host.start (linter.invocation session program files) state =
          (none, after)) :
      Raises host session task filter linter state
        (.start (.programNotStarted program))
        [.announced (linter.announcement files.length)]

/- What happens when a linter is started and passes. -/
def Finished.passage
    (session : Session)
    (done : Finished) : List Event :=
  [ .announced (done.linter.announcement done.files.length),
    .started (done.invocation session) ]

/- A report with the lines about some linters in front. -/
def Report.behind (runs : List LinterRun) (report : Report) : Report :=
  { report with runs := runs ++ report.runs }

/-
  Linters of which one ends the run with an error.  Those in
  front of it have passed.  Nothing happens after its turn:
  the run would be the same with any others behind it.
-/
structure StopsAt
    {σ : Type}
    (host : Host σ)
    (session : Session)
    (task : Task)
    (filter : ChangeFilter)
    (state : σ)
    (linters earlier : List Linter)
    (linter : Linter)
    (error : RunError)
    (events : List Event) : Prop where
  order : ∃ later, linters = earlier ++ linter :: later
  turns :
    ∃ started current own,
      Passes host session task filter earlier state started current ∧
      Raises host session task filter linter current error own ∧
      events =
        started.flatMap (Finished.passage session) ++ own
  unreached :
    ∀ others,
      runLinters host session task filter (earlier ++ linter :: others)
          state =
        runLinters host session task filter linters state

------------------------------------------------------------
-- Runs Up To An Error
------------------------------------------------------------

section

variable {σ : Type}
variable {host : Host σ} {session : Session}
variable {task : Task} {filter : ChangeFilter}
variable {state after current : σ}
variable {earlier linters : List Linter} {linter : Linter}
variable {started : List Finished}
variable {error : RunError} {events own : List Event}

theorem Trace.result_eq_error_of_map
    {ε α β : Type}
    {trace : Trace σ ε α}
    {f : α → β}
    {e : ε}
    (hError : (trace.map f).result = .error e) :
    trace.result = .error e := by
  cases hResult : trace.result with
  | error found => simpa [Trace.map, hResult, Except.map] using hError
  | ok report => simp [Trace.map, hResult, Except.map] at hError

/-
  Linters that pass put their events and their lines of the
  report in front of what the others come to.
-/
theorem Passes.runLinters_append
    (hDry : task.dryRun = false)
    (hPasses :
      Passes host session task filter earlier state started after)
    (others : List Linter) :
    runLinters host session task filter (earlier ++ others) state =
      ((runLinters host session task filter others after).map
        (Report.behind (started.map Finished.entry))).behind
        (started.flatMap (Finished.passage session)) := by
  induction hPasses with
  | nil =>
    exact (Trace.map_id _).symm
  | idle hFiles hRest ih =>
    rw [List.cons_append, runLinters_cons (.idle hFiles), ih]
    simp [Turn.goesOn, Turn.events, Turn.record_idle, Trace.map_id,
      Trace.behind]
  | @passed done rest state next after started hSome hFiles hProgram
      hStart hPassed hRest ih =>
    have hTurn :
        TurnOf host session task filter done.linter state
          (.finished done) next :=
      .finished hSome hFiles hDry hProgram hStart
    rw [List.cons_append, runLinters_cons hTurn, ih]
    simp only [Turn.goesOn, Turn.events, Turn.record_finished, hPassed,
      if_true, Trace.map, Trace.behind]
    cases (runLinters host session task filter others after).result <;>
      rfl

/- Linters that all pass come to a report. -/
theorem Passes.result_eq_ok
    (hDry : task.dryRun = false)
    (hPasses :
      Passes host session task filter earlier state started after) :
    (runLinters host session task filter earlier state).result =
      .ok ⟨started.map Finished.entry, none⟩ := by
  have hRun := hPasses.runLinters_append hDry []
  rw [List.append_nil] at hRun
  rw [hRun]
  simp [runLinters, Trace.behind, Trace.map, Except.map, Report.behind,
    Report.empty]

/- A linter that raises an error ends the run. -/
theorem Raises.runLinters_cons
    (hDry : task.dryRun = false)
    (hRaises :
      Raises host session task filter linter state error own) :
    ∃ after, ∀ rest,
      runLinters host session task filter (linter :: rest) state =
        ⟨own, .error error, after⟩ := by
  cases hRaises with
  | walk hRoot hFault hFiles =>
    exact
      ⟨state, fun rest =>
        TreeLint.runLinters_cons (.unlisted hFiles) rest⟩
  | notFound hSome hFiles hProgram =>
    exact
      ⟨state, fun rest =>
        TreeLint.runLinters_cons
          (.notFound hSome hFiles hDry hProgram) rest⟩
  | @notStarted files program after hSome hFiles hProgram hStart =>
    exact
      ⟨after, fun rest =>
        TreeLint.runLinters_cons
          (.notStarted hSome hFiles hDry hProgram hStart) rest⟩

/- What passes and what raises an error make up a run. -/
theorem Passes.stopsAt
    (hDry : task.dryRun = false)
    (hPasses :
      Passes host session task filter earlier state started current)
    (hRaises :
      Raises host session task filter linter current error own)
    (later : List Linter) :
    StopsAt host session task filter state (earlier ++ linter :: later)
      earlier linter error
      (runLinters host session task filter (earlier ++ linter :: later)
        state).events := by
  rcases hRaises.runLinters_cons hDry with ⟨after, hStop⟩
  have hRun :
      ∀ others,
        runLinters host session task filter
            (earlier ++ linter :: others) state =
          ⟨started.flatMap (Finished.passage session) ++ own,
            .error error, after⟩ := by
    intro others
    rw [hPasses.runLinters_append hDry, hStop others]
    rfl
  refine
    { order := ⟨later, rfl⟩
      turns := ⟨started, current, own, hPasses, hRaises, ?_⟩
      unreached := ?_ }
  · rw [hRun later]
  · intro others
    rw [hRun others, hRun later]

/-
  By induction on the linters: the turn of the first one either
  raises the error or leaves it to the others.
-/
theorem exists_raises_of_result_eq_error
    (hDry : task.dryRun = false)
    (linters : List Linter)
    (state : σ)
    (hError :
      (runLinters host session task filter linters state).result =
        .error error) :
    ∃ earlier linter later started current own,
      linters = earlier ++ linter :: later ∧
      Passes host session task filter earlier state started current ∧
      Raises host session task filter linter current error own := by
  induction linters generalizing state with
  | nil => cases hError
  | cons linter rest ih =>
    rcases @turns_cons σ host session task filter linter state with
      ⟨turn, after, hTurn, _⟩
    rw [runLinters_cons hTurn] at hError
    cases hTurn with
    | unlisted hFiles =>
      cases hError
      rcases FileTree.exists_fault_of_filterFiles_eq_error hFiles with
        ⟨root, hRoot, fault, path, hFault, rfl⟩
      exact
        ⟨[], linter, rest, [], state, _, rfl, .nil,
          .walk hRoot hFault hFiles⟩
    | idle hFiles =>
      rw [Turn.record_idle, Trace.map_id] at hError
      rcases ih state hError with
        ⟨earlier, other, later, started, current, own, rfl, hPasses,
          hRaises⟩
      exact
        ⟨linter :: earlier, other, later, started, current, own, rfl,
          hPasses.idle hFiles, hRaises⟩
    | described hSome hFiles hDescribed =>
      rw [hDry] at hDescribed
      cases hDescribed
    | notFound hSome hFiles _ hProgram =>
      cases hError
      exact
        ⟨[], linter, rest, [], state, _, rfl, .nil,
          .notFound hSome hFiles hProgram⟩
    | notStarted hSome hFiles _ hProgram hStart =>
      cases hError
      exact
        ⟨[], linter, rest, [], state, _, rfl, .nil,
          .notStarted hSome hFiles hProgram hStart⟩
    | @finished files program completed _ hSome hFiles _ hProgram hStart =>
      let done : Finished := ⟨linter, files, program, completed⟩
      cases hPassed : done.outcome.passed with
      | false =>
        simp [Turn.goesOn, Turn.conclude, done, hPassed] at hError
      | true =>
        have hLater :
            (runLinters host session task filter rest after).result =
              .error error := by
          apply Trace.result_eq_error_of_map
          simpa [Turn.goesOn, done, hPassed, Trace.behind] using hError
        rcases ih after hLater with
          ⟨earlier, other, later, started, current, own, rfl, hPasses,
            hRaises⟩
        exact
          ⟨linter :: earlier, other, later, done :: started, current,
            own, rfl,
            @Passes.passed _ _ _ _ _ done _ _ _ _ _ hSome hFiles hProgram
              hStart hPassed hPasses,
            hRaises⟩

/-
  A run does not stop any earlier than where it stops: in front
  of that place all linters pass, and would come to a report.
-/
theorem StopsAt.length_le
    {before : List Linter}
    {other : Linter}
    {happened : List Event}
    (hDry : task.dryRun = false)
    (hStop :
      StopsAt host session task filter state linters earlier linter
        error events)
    (hOther :
      StopsAt host session task filter state linters before other
        error happened) :
    before.length ≤ earlier.length := by
  refine Nat.le_of_not_lt fun hLonger => ?_
  rcases hStop.order with ⟨later, hOrder⟩
  rcases hOther.order with ⟨behind, hBehind⟩
  rcases List.append_eq_append_iff.mp (hOrder.symm.trans hBehind) with
    ⟨more, hBefore, hMore⟩ | ⟨more, hEarlier, _⟩
  · rcases hStop.turns with
      ⟨started, current, own, hPasses, hRaises, _⟩
    rcases hOther.turns with ⟨others, reached, _, hPassed, _, _⟩
    cases more with
    | nil => simp [hBefore] at hLonger
    | cons first rest =>
      have hFirst : first = linter := (List.cons.inj hMore).1.symm
      rcases hRaises.runLinters_cons hDry with ⟨after, hEnd⟩
      have hOk := hPassed.result_eq_ok hDry
      rw [hBefore, hFirst, hPasses.runLinters_append hDry, hEnd] at hOk
      cases hOk
  · rw [hEarlier, List.length_append] at hLonger
    omega

/- A run that ends in an error stops at exactly one position. -/
theorem existsUnique_stopsAt
    (hDry : task.dryRun = false)
    (hError :
      (runLinters host session task filter linters state).result =
        .error error) :
    ∃! position, ∃ earlier linter,
      earlier.length = position ∧
      StopsAt host session task filter state linters earlier linter
        error
        (runLinters host session task filter linters state).events := by
  rcases exists_raises_of_result_eq_error hDry linters state hError with
    ⟨earlier, linter, later, started, current, own, rfl, hPasses,
      hRaises⟩
  have hStop := hPasses.stopsAt hDry hRaises later
  refine ⟨earlier.length, ⟨earlier, linter, rfl, hStop⟩, ?_⟩
  rintro position ⟨before, other, rfl, hOther⟩
  exact
    Nat.le_antisymm (hStop.length_le hDry hOther)
      (hOther.length_le hDry hStop)

------------------------------------------------------------
-- Tasks That End In An Error
------------------------------------------------------------

/- A task without a change filter has found no changes. -/
theorem Task.findsNoChanges_of_changeFilter
    (hFilter :
      task.changeFilter host session state = (.error error, after)) :
    task.FindsNoChanges host session state error := by
  unfold Task.changeFilter at hFilter
  split at hFilter
  · next hChanged =>
    split at hFilter
    · next reason hTop =>
      cases hFilter
      exact .discovery hChanged hTop
    · next top hTop =>
      split at hFilter
      · next reason _ hQuery =>
        cases hFilter
        exact .query hChanged hTop (by rw [hQuery])
      · cases hFilter
  · cases hFilter

end

/-
  A run that is no dry run and ends in an error has either
  asked in vain for the changed files, and then nothing has
  happened; or it stops at exactly one position among the
  selected linters.  The linters in front have passed, each of
  those with files started once; the error is the one that the
  linter at the position raises; and the run would be the same
  with any other linters behind it.  Nothing is assumed about
  what the linters do.
-/
theorem erring_run_stops_at_one_linter
    {σ : Type}
    (host : Host σ)
    (session : Session)
    (state : σ)
    (task : Task)
    (error : RunError)
    (hDry : task.dryRun = false)
    (hError : (task.run host session state).result = .error error) :
    (task.FindsNoChanges host session state error ∧
      (task.run host session state).events = []) ∨
    ∃ filter start,
      task.changeFilter host session state = (.ok filter, start) ∧
      ∃! position, ∃ earlier linter,
        earlier.length = position ∧
        StopsAt host session task filter start
          (task.registry.select task.selection) earlier linter error
          (task.run host session state).events := by
  unfold Task.run at hError ⊢
  split at hError
  · next found after hFilter =>
    cases hError
    exact
      Or.inl ⟨Task.findsNoChanges_of_changeFilter hFilter, rfl⟩
  · next filter start hFilter =>
    exact
      Or.inr
        ⟨filter, start, hFilter, existsUnique_stopsAt hDry hError⟩

------------------------------------------------------------
-- A Run That Stops At Its Second Linter
------------------------------------------------------------

namespace MissingProgram

open LoneFile

/- A linter whose program there is not. -/
def missing : Linter :=
  { linter with program := "/gone" }

def task : Task where
  registry := [linter, missing, linter]
  blacklist := []
  sourceRoot := "/w"
  selection := []
  onlyChanged := false
  dryRun := false

theorem find?_gone :
    Program.find? tree session "/gone" = none := by
  have hAbsent : tree.locate [] "/gone" = .error .notFound :=
    @FileTree.locate_of_missing tree [] [] "gone" (by decide) rfl
      (by decide)
  rw [Program.find?_of_isAbsolute tree session (by decide) (by decide)]
  simp [FileTree.isProgram, FileTree.resolved?, session, hAbsent]

theorem turnOf_linter :
    TurnOf host session task .inactive linter 0
      (.finished ⟨linter, ["/w/x.py"], "/lint", ⟨some 0, [], []⟩⟩)
      1 :=
  .finished (by simp) (filesFor_linter session) rfl (find?_lint session)
    rfl

theorem turnOf_missing :
    TurnOf host session task .inactive missing 1
      (.stuck missing ["/w/x.py"] (.programNotFound .python "/gone"))
      1 :=
  .notFound (by simp) (filesFor_linter session) rfl find?_gone

theorem result_run :
    (task.run host session 0).result =
      .error (.start (.programNotFound .python "/gone")) := by
  have hRun :
      task.run host session 0 =
        runLinters host session task .inactive
          [linter, missing, linter] 0 :=
    rfl
  rw [hRun, runLinters_cons turnOf_linter, runLinters_cons turnOf_missing]
  rfl

end MissingProgram

open LoneFile MissingProgram in
theorem missing_program_stops_run :
    MissingProgram.task.dryRun = false ∧
    (MissingProgram.task.run host session 0).result =
      .error (.start (.programNotFound .python "/gone")) ∧
    ∃! position, ∃ earlier linter,
      earlier.length = position ∧
      StopsAt host session MissingProgram.task .inactive 0
        (MissingProgram.task.registry.select []) earlier linter
        (.start (.programNotFound .python "/gone"))
        (MissingProgram.task.run host session 0).events := by
  refine ⟨rfl, result_run, ?_⟩
  rcases erring_run_stops_at_one_linter host session 0
      MissingProgram.task _ rfl result_run with
    ⟨hNone, _⟩ | ⟨filter, start, hFilter, hStop⟩
  · cases hNone
  · cases hFilter
    exact hStop

end TreeLint
