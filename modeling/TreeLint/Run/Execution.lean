import TreeLint.Linter.Program
import TreeLint.Run.Event
import TreeLint.Run.Report

/-
  Running linters one after another.

  Key definitions include:
    * `Trace`
    * `Linter.run`
    * `Linter.describe`
    * `runLinters`
    * `Task.changeFilter`
    * `Task.run`

  The selected linters are run in order on the files that
  each of them should see; one without files is passed over.
  The first linter that fails ends the run, and so does the
  first error.
-/

------------------------------------------------------------
-- Traces
------------------------------------------------------------

namespace TreeLint

/-
  What happened up to the end of a computation, how it ended,
  and in which state it left the computer.
-/
structure Trace (σ ε α : Type) where
  events : List Event
  result : Except ε α
  state : σ

namespace Trace

variable {σ ε α β : Type}

/- The same trace with events in front. -/
def behind (events : List Event) (trace : Trace σ ε α) : Trace σ ε α :=
  { trace with events := events ++ trace.events }

/- The same trace with another result. -/
def map (f : α → β) (trace : Trace σ ε α) : Trace σ ε β :=
  ⟨trace.events, trace.result.map f, trace.state⟩

end Trace

------------------------------------------------------------
-- One Linter
------------------------------------------------------------

namespace Linter

/- How a linter is started on files, once its program is found. -/
def invocation
    (linter : Linter)
    (session : Session)
    (program : Path)
    (files : List Path) : Invocation where
  program := program
  args := linter.args ++ files
  env := Session.extend session.env linter.env.entries
  directory :=
    match linter.cwd with
    | some directory => Path.join session.directory directory
    | none => session.directory

/- The verdict on a finished linter. -/
def verdict (linter : Linter) (completed : Completed) : Outcome :=
  linter.policy.interpret completed.exitCode
    (RawByte.hold (Utf8.decodeLossy completed.stdout))
    (RawByte.hold (Utf8.decodeLossy completed.stderr))

/- Run a linter on files. -/
def run
    {σ : Type}
    (linter : Linter)
    (host : Host σ)
    (session : Session)
    (files : List Path)
    (state : σ) : Trace σ StartError Outcome :=
  match Program.find? (host.files state) session linter.program with
  | none =>
    ⟨[], .error (.programNotFound linter.key linter.program), state⟩
  | some program =>
    let invocation := linter.invocation session program files
    match host.start invocation state with
    | (none, state) =>
      ⟨[], .error (.programNotStarted program), state⟩
    | (some completed, state) =>
      ⟨[.started invocation], .ok (linter.verdict completed), state⟩

/- The word for so many files. -/
def filesNoun (count : Nat) : String :=
  if count = 1 then "file" else "files"

/- The announcement of a linter. -/
def announcement (linter : Linter) (count : Nat) : String :=
  "linting " ++ toString count ++ " " ++ linter.key.name ++ " "
    ++ filesNoun count

/- What would be done with files, in the words of a dry run. -/
def describe
    (linter : Linter)
    (sourceRoot : Path)
    (files : List Path) : List Event :=
  let directory := linter.cwd.getD sourceRoot
  .step
      ("would run " ++ linter.commandLine [] ++ " on "
        ++ toString files.length ++ " " ++ filesNoun files.length
        ++ " in " ++ directory)
    :: linter.env.entries.map
      (fun (name, value) => .detail (name ++ "=" ++ value))
    ++ files.map .detail

end Linter

------------------------------------------------------------
-- All Linters
------------------------------------------------------------

/- Run linters until one fails or cannot be run. -/
def runLinters
    {σ : Type}
    (host : Host σ)
    (session : Session)
    (task : Task)
    (filter : ChangeFilter) :
    List Linter → σ → Trace σ RunError Report
  | [], state => ⟨[], .ok Report.empty, state⟩
  | linter :: rest, state =>
    match (host.files state).filterFiles session.cwd linter.accepts
        task.blacklist filter linter.roots with
    | .error error => ⟨[], .error (.walk error), state⟩
    | .ok [] => runLinters host session task filter rest state
    | .ok (file :: others) =>
      let files := file :: others
      let first : LinterRun := ⟨linter.key, files.length⟩
      let announced := Event.announced (linter.announcement files.length)
      if task.dryRun then
        ((runLinters host session task filter rest state).map
          (Report.after first)).behind
          (announced :: linter.describe task.sourceRoot files)
      else
        let trace := linter.run host session files state
        let events := announced :: trace.events
        match trace.result with
        | .error error => ⟨events, .error (.start error), trace.state⟩
        | .ok outcome =>
          if outcome.passed then
            ((runLinters host session task filter rest trace.state).map
              (Report.after first)).behind events
          else
            ⟨events ++ [.diagnosed outcome.diagnostics],
              .ok ⟨[first], some linter.key⟩, trace.state⟩

namespace Task

/- The filter of a run, asked for before any linter is run. -/
def changeFilter
    {σ : Type}
    (task : Task)
    (host : Host σ)
    (session : Session)
    (state : σ) : Except RunError ChangeFilter × σ :=
  if task.onlyChanged then
    match Repository.discover (host.files state) session
        task.sourceRoot with
    | .error error => (.error (.discovery error), state)
    | .ok top =>
      match Changes.query host session top state with
      | (.error error, state) => (.error (.query error), state)
      | (.ok changed, state) => (.ok (.ofChanged changed), state)
  else
    (.ok .inactive, state)

/- Run the linters that a task selects. -/
def run
    {σ : Type}
    (task : Task)
    (host : Host σ)
    (session : Session)
    (state : σ) : Trace σ RunError Report :=
  match task.changeFilter host session state with
  | (.error error, state) => ⟨[], .error error, state⟩
  | (.ok filter, state) =>
    runLinters host session task filter
      (task.registry.select task.selection) state

end Task

end TreeLint
