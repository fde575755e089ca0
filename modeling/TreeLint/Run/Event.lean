import TreeLint.Host
import TreeLint.Text.Blank
import TreeLint.Text.Style

/-
  What happens during a run, and what of it is seen.

  Key definitions include:
    * `Event`
    * `Console`
    * `Console.line?`
    * `Console.stdout`
    * `Event.stderr`
    * `Event.warnings`
    * `Event.invocations`

  A run is a sequence of events.  A console turns some of them
  into lines on the output stream, and what linters have found
  is printed on the error stream.  Of the records that a run
  leaves in the log only warnings are events; the records that
  matter less (information, details, traces) are left out.
-/

------------------------------------------------------------
-- Events
------------------------------------------------------------

namespace TreeLint

/- Something that happens during a run. -/
inductive Event where
  /- A linter is announced. -/
  | announced (message : String)
  /- A step of a longer description. -/
  | step (message : String)
  /- A detail that belongs to a step. -/
  | row (key value : String)
  /- Something that only interests at a closer look. -/
  | detail (message : String)
  /- A linter has found something. -/
  | diagnosed (text : String)
  /- Something is unexpected, but the run goes on: a warning is
  handed to the log, which has a filter of its own. -/
  | warned (text : String)
  /- A linter is started. -/
  | started (invocation : Invocation)
deriving DecidableEq, Repr

------------------------------------------------------------
-- The Console
------------------------------------------------------------

/- How talkative and how colourful the output is. -/
structure Console where
  verbose : Bool
  quiet : Bool
  styled : Bool
deriving DecidableEq, Repr

namespace Console

/- A text that stands back. -/
def dim (console : Console) (text : String) : String :=
  Style.paint console.styled .dim text

/- A text that stands out. -/
def cyan (console : Console) (text : String) : String :=
  Style.paint console.styled .cyan text

/- A key with blanks behind it up to a fixed width. -/
def padded (key : String) : String :=
  String.ofList (key.toList ++ List.replicate (12 - key.length) ' ')

/- The line of output that an event becomes. -/
def line? (console : Console) : Event → Option String
  | .announced message => if console.quiet then none else some message
  | .step message =>
    if console.quiet then none
    else some (console.cyan "❯" ++ " " ++ message)
  | .row key value =>
    if console.quiet then none
    else some ("  " ++ console.dim (padded key) ++ " " ++ value)
  | .detail message =>
    if console.verbose then
      some (console.dim "ℹ" ++ " " ++ console.dim message)
    else
      none
  | _ => none

/- The output of a sequence of events. -/
def stdout (console : Console) (events : List Event) : String :=
  String.join ((events.filterMap console.line?).map (· ++ "\n"))

end Console

------------------------------------------------------------
-- Other Observations
------------------------------------------------------------

namespace Event

/- The line that is printed on the error stream for an event. -/
def errorLine? : Event → Option String
  | diagnosed text =>
    let text := Text.trimTextEnd text
    if text.isEmpty then none else some text
  | _ => none

/-
  What is printed on the error stream in a sequence of events.
  The lines of the log, on the same stream, are no part of it.
-/
def stderr (events : List Event) : String :=
  String.join ((events.filterMap errorLine?).map (· ++ "\n"))

/-
  The warnings of a sequence of events, whether or not the log
  lets them through.
-/
def warnings (events : List Event) : List String :=
  events.filterMap fun
    | warned text => some text
    | _ => none

/- The linters started in a sequence of events. -/
def invocations (events : List Event) : List Invocation :=
  events.filterMap fun
    | started invocation => some invocation
    | _ => none

end Event

end TreeLint
