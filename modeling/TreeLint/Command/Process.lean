import TreeLint.Command.Basic
import TreeLint.Text.Control

/-
  The command as a process.

  Key definitions include:
    * `Exit`
    * `Exit.ofUsage`
    * `Exit.ofTrace`
    * `LogFilter`
    * `Options.logFilter?`
    * `Options.loggedWarnings`
    * `Session.wantsStyles`
    * `Session.wantsStyledUsage`

  A process ends with an exit code and with what it has
  printed on its two output streams.  The log has its lines on
  the error stream as well.  They carry the time, and which of
  them there are is decided by a filter, so they are told
  apart from what is printed.
-/

------------------------------------------------------------
-- Exits
------------------------------------------------------------

namespace TreeLint

/-
  What a finished command leaves behind: its code and what it
  has printed itself, without the lines of the log.
-/
structure Exit where
  code : Nat
  stdout : String
  stderr : String
deriving DecidableEq, Repr

namespace Exit

/-
  The exit of a command line that is not carried out.  What
  was asked for is no complaint.  Where no styles are wanted,
  nothing is left of the sequences that stand for them, nor of
  those in the arguments.
-/
def ofUsage (styled : Bool) (error : UsageError) : Exit :=
  let full := error.message true
  let message := (if styled then full else Control.stripped full) ++ "\n"
  match error.exitCode with
  | 0 => ⟨0, message, ""⟩
  | code => ⟨code, "", message⟩

/- The exit of a command that was carried out. -/
def ofTrace
    {σ : Type}
    (console : Console)
    (trace : Trace σ CommandError Bool) : Exit :=
  let stdout := console.stdout trace.events
  let stderr := Event.stderr trace.events
  match trace.result with
  | .ok true => ⟨0, stdout, stderr⟩
  | .ok false => ⟨1, stdout, stderr⟩
  | .error error =>
    ⟨1, stdout, stderr ++ "Error: " ++ error.message ++ "\n"⟩

/- A line without the carriage return at its end. -/
def withoutReturn (line : String) : String :=
  match line.toList.reverse with
  | '\r' :: rest => String.ofList rest.reverse
  | _ => line

/- The first line of the error stream, if anything is on it. -/
def complaint? (exit : Exit) : Option String :=
  if exit.stderr.isEmpty then
    none
  else
    (Text.splitAt '\n' exit.stderr).head?.map withoutReturn

end Exit

------------------------------------------------------------
-- The Log
------------------------------------------------------------

/- How much a record of the log matters. -/
inductive LogLevel where
  | error
  | warning
  | info
  | debug
  | trace
deriving DecidableEq, Repr

namespace LogLevel

/- The place of a level; what matters most comes first. -/
def rank : LogLevel → Nat
  | error => 0
  | warning => 1
  | info => 2
  | debug => 3
  | trace => 4

end LogLevel

/- Which records of the log become lines, by level and text. -/
structure LogFilter where
  admits : LogLevel → String → Bool

/- The records that matter at least as much as a level. -/
def LogFilter.upTo (level : LogLevel) : LogFilter where
  admits := fun other _ => decide (other.rank ≤ level.rank)

/- The variable with directives for the log. -/
def logVariable : String := "RUST_LOG"

namespace Options

/- The level up to which a command asks for records. -/
def logLevel (options : Options) : LogLevel :=
  match options.verbose with
  | 0 => .warning
  | 1 => .info
  | 2 => .debug
  | _ => .trace

/-
  The filter of the log.  A quiet command has no log.  What
  the directives of the variable mean is up to the logger: its
  reading of them is a parameter.  Where there are none that
  it can read, the command line decides.
-/
def logFilter?
    (options : Options)
    (session : Session)
    (read? : String → Option LogFilter) : Option LogFilter :=
  if options.quiet then
    .none
  else
    some (((session.textOf? logVariable).bind read?).getD
      (.upTo options.logLevel))

/- The warnings of a run that become lines of the log. -/
def loggedWarnings
    (options : Options)
    (session : Session)
    (read? : String → Option LogFilter)
    (events : List Event) : List String :=
  match options.logFilter? session read? with
  | .none => []
  | some filter =>
    (Event.warnings events).filter (filter.admits .warning)

end Options

------------------------------------------------------------
-- Styles
------------------------------------------------------------

/- The variable that asks for styles where there is no terminal. -/
def styleVariable : String := "CLICOLOR_FORCE"

/- The variable that forbids styles in usage errors. -/
def plainVariable : String := "NO_COLOR"

/- Whether the environment asks for styles in what a run prints. -/
def Session.wantsStyles (session : Session) : Bool :=
  match session.valueOf? styleVariable with
  | none => false
  | some value => value != "0"

/- Whether a variable is set to a text with something in it. -/
def Session.isSet (session : Session) (name : String) : Bool :=
  ((session.valueOf? name).getD "") != ""

/- Whether the environment asks for styles in usage errors. -/
def Session.wantsStyledUsage (session : Session) : Bool :=
  session.isSet styleVariable && !session.isSet plainVariable

end TreeLint
