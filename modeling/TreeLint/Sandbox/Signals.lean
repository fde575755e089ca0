import TreeLint.Sandbox.Shell

/-
  Options of built-in commands, signals and traps.

  Key definitions include:
    * `Shell.readOptions`
    * `Signal.ofText?`
    * `Shell.trap`
    * `Shell.kill`

  A signal is known under its name and under its number.  The
  end of the shell counts as the signal with the number zero,
  so that something can be carried out then.
-/

------------------------------------------------------------
-- Options Of Commands
------------------------------------------------------------

namespace TreeLint

namespace Sandbox

namespace Shell

/-
  The letters of one argument.  A letter of `valued` takes the
  rest of the argument as its value.
-/
def splitLetters (plain valued : List Char) :
    List Char → Except String (List Char × Option (Char × String))
  | [] => .ok ([], none)
  | c :: rest => do
    if valued.contains c then
      return ([], some (c, String.ofList rest))
    else if plain.contains c then
      let (others, last) ← splitLetters plain valued rest
      return (c :: others, last)
    else
      .error ("Illegal option -" ++ String.singleton c)

/- The options in front of arguments, and the other arguments. -/
def readOptions (plain valued : List Char) :
    List String → Except String (List (Char × String) × List String)
  | [] => .ok ([], [])
  | a :: rest => do
    match a.toList with
    | ['-', '-'] => return ([], rest)
    | '-' :: c :: more =>
      let (letters, last?) ← splitLetters plain valued (c :: more)
      let front := letters.map (fun letter => (letter, ""))
      match last?, rest with
      | none, rest =>
        let (others, rest) ← readOptions plain valued rest
        return (front ++ others, rest)
      | some (letter, ""), [] =>
        .error ("No arg for -" ++ String.singleton letter ++ " option")
      | some (letter, ""), value :: rest =>
        let (others, rest) ← readOptions plain valued rest
        return (front ++ (letter, value) :: others, rest)
      | some last, rest =>
        let (others, rest) ← readOptions plain valued rest
        return (front ++ last :: others, rest)
    | _ => return ([], a :: rest)

/- Carry out a command behind its options, if these are right. -/
def withOptions (plain valued : String) (sh : Shell) (args : List String)
    (action : List (Char × String) → List String → Shell × Flow) :
    Shell × Flow :=
  match readOptions plain.toList valued.toList args with
  | .ok (options, rest) => action options rest
  | .error why => (sh.breakOff why, .next)

/- The number that an argument gives. -/
def number? (text : String) : Option Nat :=
  if text.isEmpty then none
  else
    (Numeral.natural? 10 text.toList).filter (fun n => n < 2147483648)

/- Give up because an argument is no number. -/
def refuseNumber (sh : Shell) (text : String) : Shell :=
  sh.breakOff ("Illegal number: " ++ text)

/- A text in quotes that the shell reads back as it was. -/
def quote (text : String) : String :=
  "'" ++ Text.joinWith "'\"'\"'" (Text.splitAt '\'' text) ++ "'"

end Shell

------------------------------------------------------------
-- Signals
------------------------------------------------------------

namespace Signal

/- The names of the signals, in the order of their numbers. -/
def names : List String :=
  [ "EXIT", "HUP", "INT", "QUIT", "ILL", "TRAP", "ABRT", "BUS", "FPE",
    "KILL", "USR1", "SEGV", "USR2", "PIPE", "ALRM", "TERM", "STKFLT",
    "CHLD", "CONT", "STOP", "TSTP", "TTIN", "TTOU", "URG", "XCPU",
    "XFSZ", "VTALRM", "PROF", "WINCH", "IO", "PWR", "SYS" ]

/- The name of the signal that a text stands for. -/
def ofText? (text : String) : Option String :=
  match Shell.number? text with
  | some n => names[n]?
  | none =>
    let name := text.map Char.toUpper
    if names.contains name then some name else none

/- Signals that no process is ended by. -/
def harmless : List String :=
  ["EXIT", "CHLD", "CONT", "STOP", "TSTP", "TTIN", "TTOU", "URG", "WINCH"]

end Signal

namespace Shell

------------------------------------------------------------
-- Traps
------------------------------------------------------------

/- What is carried out on a signal; empty if it is ignored. -/
def trapOf? (sh : Shell) (signal : String) : Option (List Char) :=
  sh.traps.lookup signal

/- Say what is to be carried out on a signal. -/
def setTrap (sh : Shell) (signal : String)
    (action : Option (List Char)) : Shell :=
  let others := sh.traps.filter (fun t => t.1 != signal)
  { sh with
    traps := match action with
      | some text => (signal, text) :: others
      | none => others }

/- Say what is to be carried out on signals. -/
def setTraps (action : Option (List Char)) :
    Shell → List String → Shell × Flow
  | sh, [] => (sh.withStatus 0, .next)
  | sh, text :: rest =>
    match Signal.ofText? text with
    | some signal => setTraps action (sh.setTrap signal action) rest
    | none =>
      ((sh.print 2 ("trap: " ++ text ++ ": bad trap\n")).withStatus 1,
        .next)

/- List the traps, or set some. -/
def trap (sh : Shell) (args : List String) : Shell × Flow :=
  sh.withOptions "" "" args fun _ rest =>
    match rest with
    | [] =>
      let lines := Signal.names.filterMap fun signal =>
        (sh.trapOf? signal).map fun action =>
          "trap -- " ++ quote (String.ofList action) ++ " " ++ signal ++ "\n"
      ((sh.print 1 (String.join lines)).withStatus 0, .next)
    | [signal] => setTraps none sh [signal]
    | action :: signals =>
      if (number? action).isSome then setTraps none sh (action :: signals)
      else
        setTraps (if action == "-" then none else some action.toList)
          sh signals

/- A shell of its own has only the traps that ignore signals. -/
def withoutTraps (sh : Shell) : Shell :=
  { sh with traps := sh.traps.filter (fun t => t.2.isEmpty) }

------------------------------------------------------------
-- Sending Signals
------------------------------------------------------------

/- How signals are sent. -/
def killUsage : String :=
  "Usage: kill [-s sigspec | -signum | -sigspec] [pid | job]... or\n"
    ++ "kill -l [exitstatus]"

/- What a signal does to the shell. -/
def receive (sh : Shell) (signal : String) : Shell × Flow :=
  if signal == "KILL" then (sh, .killed)
  else
    match sh.trapOf? signal with
    | some [] => (sh, .next)
    | some _ => ({ sh with pending := sh.pending ++ [signal] }, .next)
    | none =>
      (sh, if Signal.harmless.contains signal then .next else .killed)

/- Send a signal to processes. -/
def sendTo (signal : String) : Shell → List String → Shell × Flow
  | sh, [] => (sh, .next)
  | sh, target :: rest =>
    match number? target with
    | none => (sh.refuseNumber target, .next)
    | some _ =>
      if target == processNumber || target == "0" then
        match sh.receive signal with
        | (sh, .next) => sendTo signal sh rest
        | ended => ended
      else if target == childNumber && sh.background.isSome then
        sendTo signal sh rest
      else
        sendTo signal
          ((sh.complainAs "No such process\n").withStatus 1) rest

/- Name a signal, or the signal that ended a process. -/
def nameSignal (sh : Shell) (text : String) : Shell × Flow :=
  match number? text with
  | none => (sh.refuseNumber text, .next)
  | some n =>
    let n := if n > 128 then n - 128 else n
    match n, Signal.names[n]? with
    | _ + 1, some name => (sh.print 1 (name ++ "\n"), .next)
    | _, _ =>
      (sh.breakOff ("invalid signal number or exit status: " ++ text),
        .next)

/- Send signals, or list them. -/
def kill (sh : Shell) (args : List String) : Shell × Flow :=
  let sh := sh.withStatus 0
  let send (signal : String) (targets : List String) : Shell × Flow :=
    if targets.isEmpty then (sh.breakOff killUsage, .next)
    else sendTo signal sh targets
  match args with
  | [] => (sh.breakOff killUsage, .next)
  | first :: rest =>
    let asked? :=
      if first.startsWith "-" then
        Signal.ofText? (String.ofList (first.toList.drop 1))
      else none
    match asked? with
    | some signal => send signal rest
    | none =>
      sh.withOptions "l" "s" args fun options targets =>
        let signal? := options.lookup 's'
        match options.any (fun o => o.1 == 'l'), signal? with
        | true, none =>
          match targets with
          | text :: _ => sh.nameSignal text
          | [] =>
            (sh.print 1 ("0\n" ++ String.join
              ((Signal.names.drop 1).map (· ++ "\n"))), .next)
        | true, some _ => (sh.breakOff killUsage, .next)
        | false, none => send "TERM" targets
        | false, some text =>
          match Signal.ofText? text with
          | some signal => send signal targets
          | none =>
            (sh.breakOff ("invalid signal number or name: " ++ text), .next)

end Shell

end Sandbox

end TreeLint
