import TreeLint.Proofs.Run.Turns

/-
  Which linters a run starts, and what it reports.

  Key definitions include:
    * `Host.answers`
    * `Registry.LeavesFiles`
    * `Task.work`
    * `RunsExactly`

  Key theorems include:
    * `runsExactly_of_conclude_eq_ok`

  A run that ends in a report has started the linters that
  have files, in order and each of them once, up to the first
  one that failed.
-/

------------------------------------------------------------
-- What A Run Amounts To
------------------------------------------------------------

namespace TreeLint

/- The answers to starting programs one after another. -/
def Host.answers
    {σ : Type}
    (host : Host σ) : List Invocation → σ → List (Option Completed)
  | [], _ => []
  | invocation :: rest, state =>
    (host.start invocation state).1
      :: host.answers rest (host.start invocation state).2

/- The linters of a registry leave the files as they are. -/
def Registry.LeavesFiles
    {σ : Type}
    (registry : Registry)
    (host : Host σ)
    (session : Session) : Prop :=
  ∀ linter ∈ registry, ∀ program files state,
    host.files
        (host.start (linter.invocation session program files) state).2 =
      host.files state

/- So do those that are selected. -/
theorem Registry.LeavesFiles.select
    {σ : Type}
    {registry : Registry}
    {host : Host σ}
    {session : Session}
    (hLeaves : registry.LeavesFiles host session)
    (selection : List Language) :
    Registry.LeavesFiles (registry.select selection) host session :=
  fun linter hLinter => hLeaves linter (List.mem_filter.mp hLinter).1

/- The linters that have files, each with its own. -/
def Task.work
    (task : Task)
    (t : FileTree)
    (session : Session)
    (filter : ChangeFilter)
    (linters : List Linter) : List (Linter × List Path) :=
  linters.filterMap fun linter =>
    match task.filesFor t session filter linter with
    | .ok (file :: others) => some (linter, file :: others)
    | _ => none

/-
  What a run of linters amounts to.  The linters it reached
  are a beginning of the linters given; those with files were
  started on them, and the computer answered.  Either every
  linter was reached and none failed, or the last linter that
  was reached is the only one that failed.
-/
structure RunsExactly
    {σ : Type}
    (host : Host σ)
    (session : Session)
    (task : Task)
    (filter : ChangeFilter)
    (state : σ)
    (linters reached unreached : List Linter)
    (started : List Finished)
    (report : Report) : Prop where
  order : linters = reached ++ unreached
  listed :
    ∀ linter ∈ reached, ∃ files,
      task.filesFor (host.files state) session filter linter = .ok files
  work :
    started.map (fun done => (done.linter, done.files)) =
      task.work (host.files state) session filter reached
  programs :
    ∀ done ∈ started,
      Program.find? (host.files state) session done.linter.program =
        some done.program
  answers :
    host.answers (started.map (Finished.invocation session)) state =
      started.map (fun done => some done.completed)
  runs : report.runs = started.map Finished.entry
  unfailed :
    report.failed = none →
      unreached = [] ∧ ∀ done ∈ started, done.outcome.passed = true
  failed :
    ∀ key, report.failed = some key →
      ∃ before last,
        started = before ++ [last] ∧
        reached.getLast? = some last.linter ∧
        key = last.linter.key ∧
        last.outcome.passed = false ∧
        ∀ done ∈ before, done.outcome.passed = true

------------------------------------------------------------
-- Runs Grow By Turns
------------------------------------------------------------

namespace RunsExactly

variable {σ : Type}
variable {host : Host σ} {session : Session}
variable {task : Task} {filter : ChangeFilter}
variable {state after : σ} {linter : Linter} {done : Finished}
variable {rest reached unreached : List Linter}
variable {started : List Finished} {report : Report}

theorem nil :
    RunsExactly host session task filter state [] [] [] []
      Report.empty where
  order := rfl
  listed := by simp
  work := rfl
  programs := by simp
  answers := rfl
  runs := rfl
  unfailed := by simp
  failed := by simp [Report.empty]

/- A linter without files is passed over. -/
theorem cons_idle
    (hFiles :
      task.filesFor (host.files state) session filter linter = .ok [])
    (hRest :
      RunsExactly host session task filter state rest reached unreached
        started report) :
    RunsExactly host session task filter state (linter :: rest)
      (linter :: reached) unreached started report where
  order := by rw [hRest.order, List.cons_append]
  listed := by
    intro other hOther
    rcases List.mem_cons.mp hOther with rfl | hIn
    · exact ⟨[], hFiles⟩
    · exact hRest.listed other hIn
  work := by
    rw [hRest.work]
    simp [Task.work, hFiles]
  programs := hRest.programs
  answers := hRest.answers
  runs := hRest.runs
  unfailed := hRest.unfailed
  failed := by
    intro key hKey
    rcases hRest.failed key hKey with
      ⟨before, last, hStarted, hLast, hOthers⟩
    refine ⟨before, last, hStarted, ?_, hOthers⟩
    rw [List.getLast?_cons, hLast]
    rfl

/-
  A linter that passes is in front of what the others amount
  to, provided that it leaves the files as they are.
-/
theorem cons_passed
    (hSame : host.files after = host.files state)
    (hSome : done.files ≠ [])
    (hFiles :
      task.filesFor (host.files state) session filter done.linter =
        .ok done.files)
    (hProgram :
      Program.find? (host.files state) session done.linter.program =
        some done.program)
    (hStart :
      host.start (done.invocation session) state =
        (some done.completed, after))
    (hPassed : done.outcome.passed = true)
    (hRest :
      RunsExactly host session task filter after rest reached unreached
        started report) :
    RunsExactly host session task filter state (done.linter :: rest)
      (done.linter :: reached) unreached (done :: started)
      (report.after done.entry) where
  order := by rw [hRest.order, List.cons_append]
  listed := by
    intro other hOther
    rcases List.mem_cons.mp hOther with rfl | hIn
    · exact ⟨done.files, hFiles⟩
    · rw [← hSame]
      exact hRest.listed other hIn
  work := by
    rw [List.map_cons, hRest.work, hSame]
    cases hList : done.files with
    | nil => exact absurd hList hSome
    | cons file others =>
      rw [hList] at hFiles
      simp [Task.work, hFiles]
  programs := by
    intro other hOther
    rcases List.mem_cons.mp hOther with rfl | hIn
    · exact hProgram
    · rw [← hSame]
      exact hRest.programs other hIn
  answers := by
    simp only [List.map_cons, Host.answers, hStart, hRest.answers]
  runs := by
    rw [List.map_cons, ← hRest.runs]
    rfl
  unfailed := by
    intro hNone
    have hOthers := hRest.unfailed hNone
    refine ⟨hOthers.1, ?_⟩
    intro other hOther
    rcases List.mem_cons.mp hOther with rfl | hIn
    · exact hPassed
    · exact hOthers.2 other hIn
  failed := by
    intro key hKey
    rcases hRest.failed key hKey with
      ⟨before, last, hStarted, hLast, hEq, hFailed, hBefore⟩
    refine ⟨done :: before, last, ?_, ?_, hEq, hFailed, ?_⟩
    · rw [hStarted, List.cons_append]
    · rw [List.getLast?_cons, hLast]
      rfl
    · intro other hOther
      rcases List.mem_cons.mp hOther with rfl | hIn
      · exact hPassed
      · exact hBefore other hIn

/- A linter that fails is the last one that is reached. -/
theorem cons_failed
    (hSome : done.files ≠ [])
    (hFiles :
      task.filesFor (host.files state) session filter done.linter =
        .ok done.files)
    (hProgram :
      Program.find? (host.files state) session done.linter.program =
        some done.program)
    (hStart :
      host.start (done.invocation session) state =
        (some done.completed, after))
    (hFailed : done.outcome.passed = false) :
    RunsExactly host session task filter state (done.linter :: rest)
      [done.linter] rest [done]
      ⟨[done.entry], some done.linter.key⟩ where
  order := rfl
  listed := by
    intro other hOther
    rw [List.mem_singleton.mp hOther]
    exact ⟨done.files, hFiles⟩
  work := by
    cases hList : done.files with
    | nil => exact absurd hList hSome
    | cons file others =>
      rw [hList] at hFiles
      simp [Task.work, hFiles, hList]
  programs := by
    intro other hOther
    rw [List.mem_singleton.mp hOther]
    exact hProgram
  answers := by
    simp [Host.answers, hStart]
  runs := rfl
  unfailed := by simp
  failed := by
    intro key hKey
    refine ⟨[], done, rfl, rfl, ?_, hFailed, by simp⟩
    exact (Option.some.inj hKey).symm

/-
  Where no linter failed, each of the linters was started on
  all of its files and passed.
-/
theorem passed_of_unfailed
    {linters : List Linter}
    (hExact :
      RunsExactly host session task filter state linters reached
        unreached started report)
    (hUnfailed : report.failed = none)
    (hLinter : linter ∈ linters) :
    ∃ files,
      task.filesFor (host.files state) session filter linter =
        .ok files ∧
      (files ≠ [] →
        ∃ done ∈ started,
          done.linter = linter ∧
          done.files = files ∧
          done.outcome.passed = true) := by
  rcases hExact.unfailed hUnfailed with ⟨hAll, hPassed⟩
  have hReached : linter ∈ reached := by
    rw [hExact.order, hAll, List.append_nil] at hLinter
    exact hLinter
  rcases hExact.listed linter hReached with ⟨files, hFiles⟩
  refine ⟨files, hFiles, ?_⟩
  intro hSome
  have hWork :
      (linter, files) ∈
        task.work (host.files state) session filter reached := by
    apply List.mem_filterMap.mpr
    refine ⟨linter, hReached, ?_⟩
    cases files with
    | nil => exact absurd rfl hSome
    | cons file others => simp [hFiles]
  rw [← hExact.work] at hWork
  rcases List.mem_map.mp hWork with ⟨done, hDone, hEq⟩
  cases hEq
  exact ⟨done, hDone, rfl, rfl, hPassed done hDone⟩

end RunsExactly

------------------------------------------------------------
-- Every Run That Ends In A Report
------------------------------------------------------------

section

variable {σ : Type}
variable {host : Host σ} {session : Session}
variable {task : Task} {filter : ChangeFilter}

/-
  By induction on the linters.  The files that a linter is
  given do not depend on the ones that ran before it, since
  these leave the files as they are.
-/
theorem runsExactly_of_conclude_eq_ok
    (hDry : task.dryRun = false)
    (linters : List Linter)
    (hLeaves :
      Registry.LeavesFiles linters host session)
    (state : σ)
    (report : Report)
    (hReport :
      Turn.conclude (turns host session task filter linters state) =
        .ok report) :
    ∃ reached unreached,
      RunsExactly host session task filter state linters
        reached unreached
        ((turns host session task filter linters state).filterMap
          Turn.finished?)
        report := by
  induction linters generalizing state report with
  | nil =>
    have hEmpty : Report.empty = report := Except.ok.inj hReport
    exact ⟨[], [], hEmpty ▸ RunsExactly.nil⟩
  | cons linter rest ih =>
    have hRestLeaves : Registry.LeavesFiles rest host session :=
      fun other hOther =>
        hLeaves other (List.mem_cons_of_mem _ hOther)
    rcases @turns_cons σ host session task filter linter state with
      ⟨turn, after, hTurn, hTurns⟩
    rw [hTurns rest] at hReport ⊢
    cases hTurn with
    | unlisted hFiles => cases hReport
    | idle hFiles =>
      rcases ih hRestLeaves _ report hReport with
        ⟨reached, unreached, hRest⟩
      exact ⟨linter :: reached, unreached, hRest.cons_idle hFiles⟩
    | described hSome hFiles hDescribed =>
      rw [hDry] at hDescribed
      cases hDescribed
    | notFound => cases hReport
    | notStarted => cases hReport
    | @finished files program completed _ hSome hFiles _ hProgram hStart =>
      let done : Finished := ⟨linter, files, program, completed⟩
      cases hPassed : done.outcome.passed with
      | false =>
        have hEq : ⟨[done.entry], some done.linter.key⟩ = report := by
          simpa [Turn.conclude, done, hPassed] using hReport
        have hExact :
            RunsExactly host session task filter state
              (done.linter :: rest) [done.linter] rest [done]
              ⟨[done.entry], some done.linter.key⟩ :=
          RunsExactly.cons_failed hSome hFiles hProgram hStart hPassed
        refine ⟨[linter], rest, ?_⟩
        simpa [Turn.goesOn, Turn.finished?, done, hPassed, ← hEq]
          using hExact
      | true =>
        have hSame : host.files after = host.files state := by
          have hKept :=
            hLeaves linter List.mem_cons_self program files state
          rwa [hStart] at hKept
        cases hOthers :
            Turn.conclude
              (turns host session task filter rest after) with
        | error error =>
          simp [Turn.conclude, Turn.goesOn, done, hPassed, hOthers,
            Except.map] at hReport
        | ok others =>
          rcases ih hRestLeaves after others hOthers with
            ⟨reached, unreached, hRest⟩
          have hEq : others.after done.entry = report := by
            simpa [Turn.conclude, Turn.goesOn, done, hPassed, hOthers,
              Except.map] using hReport
          have hExact :
              RunsExactly host session task filter state
                (done.linter :: rest) (done.linter :: reached)
                unreached (done :: _) (others.after done.entry) :=
            hRest.cons_passed hSame hSome hFiles hProgram hStart
              hPassed
          refine ⟨linter :: reached, unreached, ?_⟩
          simpa [Turn.goesOn, Turn.finished?, done, hPassed, ← hEq]
            using hExact

end

end TreeLint
