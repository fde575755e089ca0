import TreeLint.Command.Process

/-
  What a command line comes down to.

  Key definitions include:
    * `Options.assignment`

  Key theorems include:
    * `Options.run_eq_of_not_list`
    * `Exit.code_ofTrace_eq_zero_iff`

  Before any linter is run, the command has changed its
  directory, loaded its configuration and found the source
  root.  What is left then is a task in a session.
-/

------------------------------------------------------------
-- Assignments
------------------------------------------------------------

namespace TreeLint

namespace Options

/- The session and the task that options come down to. -/
def assignment
    (options : Options)
    (t : FileTree)
    (session : Session) : Except CommandError (Session × Task) :=
  match options.enter t session with
  | .error error => .error error
  | .ok entered =>
    match (Config.load t entered options.config).result with
    | .error error => .error (.load error)
    | .ok config =>
      let root := config.findSourceRoot t entered entered.directory
      match Registry.ofConfig config root with
      | .error invalid => .error (.load (.invalid invalid))
      | .ok registry =>
        .ok (entered, options.task config root registry)

/- The task of an assignment has the options that were given. -/
theorem dryRun_of_assignment_eq_ok
    {options : Options}
    {t : FileTree}
    {session entered : Session}
    {task : Task}
    (hTask : options.assignment t session = .ok (entered, task)) :
    task.dryRun = options.dryRun := by
  unfold assignment at hTask
  split at hTask
  · cases hTask
  · split at hTask
    · cases hTask
    · simp only at hTask
      split at hTask
      · cases hTask
      · cases hTask
        rfl

------------------------------------------------------------
-- Runs Of Assignments
------------------------------------------------------------

section

variable {σ : Type}
variable {host : Host σ} {session : Session} {state : σ}
variable {options : Options}

/-
  A command that does not list runs the task of its
  assignment, with nothing but warnings in front.
-/
theorem run_eq_of_not_list
    (hList : options.list = false) :
    ∃ warnings : List String,
      options.run host session state =
        Trace.behind (warnings.map Event.warned)
          (match options.assignment (host.files state) session with
          | .error error => ⟨[], .error error, state⟩
          | .ok (entered, task) =>
            options.runTask host entered task state) := by
  unfold assignment run
  cases hEnter : options.enter (host.files state) session with
  | error error => exact ⟨[], rfl⟩
  | ok entered =>
    simp only [runHere]
    let loaded :=
      Config.load (host.files state) entered options.config
    cases hLoad : loaded.result with
    | error error =>
      exact ⟨loaded.warnings, by simp [Trace.behind, loaded]⟩
    | ok config =>
      cases hRegistry :
          Registry.ofConfig config
            (config.findSourceRoot (host.files state) entered
              entered.directory) with
      | error invalid =>
        refine ⟨loaded.warnings, ?_⟩
        simp [Trace.behind, loaded, hRegistry]
      | ok registry =>
        cases hEmpty : registry.isEmpty with
        | false =>
          refine ⟨loaded.warnings, ?_⟩
          simp [hList, emptyWarning, hEmpty, loaded, hRegistry]
        | true =>
          refine ⟨loaded.warnings ++ ["No linters configured"], ?_⟩
          simp [hList, emptyWarning, hEmpty, loaded, hRegistry]

end

end Options

------------------------------------------------------------
-- Exit Codes
------------------------------------------------------------

/- A process succeeds when its command found nothing wrong. -/
theorem Exit.code_ofTrace_eq_zero_iff
    {σ : Type}
    (console : Console)
    (trace : Trace σ CommandError Bool) :
    (Exit.ofTrace console trace).code = 0 ↔
      trace.result = .ok true := by
  unfold Exit.ofTrace
  cases hResult : trace.result with
  | error error => simp
  | ok passed => cases passed <;> simp

end TreeLint
