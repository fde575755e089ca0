import TreeLint.Command.Options
import TreeLint.Config.Load
import TreeLint.Run.Execution

/-
  The whole command.

  Key definitions include:
    * `CommandError`
    * `Options.console`
    * `Options.enter`
    * `Options.run`

  The command changes to the directory asked for, loads the
  configuration, finds the source root, and then lists the
  linters or runs them.
-/

------------------------------------------------------------
-- Errors
------------------------------------------------------------

namespace TreeLint

/- Why a command could not be carried out. -/
inductive CommandError where
  | noSuchDirectory (directory : String)
  | load (error : Config.LoadError)
  | run (error : RunError)
deriving DecidableEq, Repr

namespace CommandError

/- The wording of the error. -/
def message : CommandError → String
  | noSuchDirectory directory => "Cannot change directory to " ++ directory
  | load error => error.message
  | run error => error.message

end CommandError

------------------------------------------------------------
-- Parts Of The Command
------------------------------------------------------------

namespace Options

/- The console that the options ask for. -/
def console (options : Options) (styled : Bool) : Console :=
  ⟨options.verbose != 0, options.quiet, styled⟩

/- Change to the directory asked for. -/
def enter
    (options : Options)
    (t : FileTree)
    (session : Session) : Except CommandError Session :=
  match options.directory with
  | .none => .ok session
  | some directory =>
    match t.directory? session.cwd directory with
    | some cwd => .ok { session with cwd }
    | .none => .error (.noSuchDirectory directory)

/- The description of a linter in a list. -/
def describe (linter : Linter) : List Event :=
  [ .step linter.key.name,
    .row "roots" (Text.joinWith ", " linter.roots),
    .row "extensions" (Text.joinWith ", " linter.extensions),
    .row "command" (linter.commandLine []),
    .row "policy" linter.policy.name ]
    ++ (linter.cwd.map (.row "cwd")).toList

/- What a configuration and a source root ask to be done. -/
def task
    (options : Options)
    (config : Config)
    (root : Path)
    (registry : Registry) : Task where
  registry := registry
  blacklist := PathSet.resolved root config.blacklist
  sourceRoot := root
  selection := options.languages
  onlyChanged := options.changed
  dryRun := options.dryRun

/- The last word of a run that no linter made fail. -/
def summary (options : Options) (report : Report) : List Event :=
  if options.dryRun then
    [.detail ("Dry run: " ++ toString report.runs.length
      ++ " linters would run")]
  else
    []

/- Run the linters of a registry. -/
def runTask
    {σ : Type}
    (options : Options)
    (host : Host σ)
    (session : Session)
    (task : Task)
    (state : σ) : Trace σ CommandError Bool :=
  let trace := task.run host session state
  match trace.result with
  | .error error => ⟨trace.events, .error (.run error), trace.state⟩
  | .ok report =>
    if report.passed then
      ⟨trace.events ++ options.summary report, .ok true, trace.state⟩
    else
      ⟨trace.events, .ok false, trace.state⟩

/- The warning about a configuration without linters. -/
def emptyWarning (registry : Registry) : List Event :=
  if registry.isEmpty then [.warned "No linters configured"] else []

------------------------------------------------------------
-- The Command
------------------------------------------------------------

/- Carry out the command in the directory it works in. -/
def runHere
    {σ : Type}
    (options : Options)
    (host : Host σ)
    (session : Session)
    (state : σ) : Trace σ CommandError Bool :=
  let t := host.files state
  let loaded := Config.load t session options.config
  let warned := loaded.warnings.map Event.warned
  match loaded.result with
  | .error error => ⟨warned, .error (.load error), state⟩
  | .ok config =>
    let root := config.findSourceRoot t session session.directory
    match Registry.ofConfig config root with
    | .error invalid => ⟨warned, .error (.load (.invalid invalid)), state⟩
    | .ok registry =>
      let events := warned ++ emptyWarning registry
      if options.list then
        ⟨events ++ registry.flatMap describe, .ok true, state⟩
      else
        (options.runTask host session
          (options.task config root registry) state).behind events

/-
  Carry out the command.  The result says whether every
  linter that was run has passed.
-/
def run
    {σ : Type}
    (options : Options)
    (host : Host σ)
    (session : Session)
    (state : σ) : Trace σ CommandError Bool :=
  match options.enter (host.files state) session with
  | .error error => ⟨[], .error error, state⟩
  | .ok session => options.runHere host session state

end Options

end TreeLint
