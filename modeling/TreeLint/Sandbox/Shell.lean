import TreeLint.Sandbox.Arithmetic
import TreeLint.Sandbox.Pattern
import TreeLint.Sandbox.Script
import TreeLint.Sandbox.Tools

/-
  The shell of the sandbox while it is at work.

  Key definitions include:
    * `Sink`
    * `Flow`
    * `Shell`
    * `Shell.parameter?`
    * `Shell.setVariable`
    * `Shell.restore`

  The shell carries scripts out.  It knows where it is, what
  its variables are, where its streams go and how far it has
  come; what it prints is collected in texts, so that commands
  can read what other commands have printed.
-/

------------------------------------------------------------
-- The State
------------------------------------------------------------

namespace TreeLint

namespace Sandbox

/- Where a stream goes. -/
inductive Sink where
  /- Out of the shell, on one of its own two streams. -/
  | outside (isComplaint : Bool)
  /- Into one of the texts that are being collected. -/
  | buffer (id : Nat)
  | file (loc : Location)
  | nowhere
deriving DecidableEq

/- What is left to be read from somewhere. -/
structure Supply where
  bytes : List UInt8
  /- It comes from a file, in which one can go back. -/
  isFile : Bool
deriving DecidableEq, Repr

/- How a command ends. -/
inductive Flow where
  | next
  | leaveLoops (count : Nat)
  | continueLoop (count : Nat)
  | leaveFunction
  | exit
  /- A signal ends the whole process. -/
  | killed
deriving DecidableEq

/- A shell at work. -/
structure Shell where
  world : World
  cwd : Location
  /- The path on which the working directory was reached. -/
  directory : Path
  vars : List (String × String)
  exported : List String
  /- Variables that cannot be changed. -/
  fixed : List String
  functions : List (String × Script)
  shortcuts : List (String × String)
  name : String
  /- The command that complaints are made for. -/
  speaker : Option String
  params : List String
  /- The line of the command that is carried out. -/
  line : Nat
  status : Int
  /- The status of the last command whose output was used. -/
  captured : Int
  /- The letters of the options that are on. -/
  options : List Char
  /- The status of the command is asked for, so it may fail. -/
  isTested : Bool
  /- A word could not be expanded. -/
  isBroken : Bool
  /- How many loops are at work. -/
  loops : Nat
  /- How many functions are at work. -/
  depth : Nat
  /- What local variables were before. -/
  saved : List (String × Option String)
  /- What is carried out on signals and at the end. -/
  traps : List (String × List Char)
  /- The status before what is carried out on a signal. -/
  trapStatus : Option Int
  /- Signals that have come in and wait for their traps. -/
  pending : List String
  /- The status of the last command in the background. -/
  background : Option Int
  /-
    Which parameter is the next to be read as options, and how
    many characters of the one before it have been read.
  -/
  optionsRead : Nat × Nat
  mask : Nat
  /- The supply behind the number of each stream that is read. -/
  inputs : List (Nat × Nat)
  supplies : List (Nat × Supply)
  sinks : List (Nat × Sink)
  /- Collected texts, newest byte first. -/
  buffers : List (Nat × List UInt8)
  nextBuffer : Nat
  /- What has gone out of the shell, newest first. -/
  printed : List Printed

/- The search path of programs whose environment has none. -/
def defaultSearchPath : String := "/bin:/usr/bin"

namespace Shell

/- Whether an option is on. -/
def has (sh : Shell) (option : Char) : Bool :=
  sh.options.contains option

/- The value of a variable. -/
def valueOf? (sh : Shell) (name : String) : Option String :=
  sh.vars.lookup name

/- Set a variable; one that is there keeps its place. -/
def putVariable (name value : String) :
    List (String × String) → List (String × String)
  | [] => [(name, value)]
  | v :: rest =>
    if v.1 == name then (name, value) :: rest
    else v :: putVariable name value rest

/- Set a variable. -/
def setVariable (sh : Shell) (name value : String) : Shell :=
  { sh with
    vars := putVariable name value sh.vars
    exported :=
      if sh.has 'a' && !sh.exported.contains name then name :: sh.exported
      else sh.exported
    optionsRead :=
      if name == "OPTIND" then
        ((Numeral.natural? 10 value.toList).getD 1, 0)
      else
        sh.optionsRead }

/- Take away a variable. -/
def dropVariable (sh : Shell) (name : String) : Shell :=
  { sh with
    vars := sh.vars.filter (fun v => v.1 != name)
    exported := sh.exported.filter (· != name) }

/- Hand a variable on to programs. -/
def exportVariable (sh : Shell) (name : String) : Shell :=
  if sh.exported.contains name then sh
  else { sh with exported := name :: sh.exported }

/- The number of the place in which a variable is kept. -/
def placeOf (name : String) : Nat :=
  match RawByte.encode name with
  | [] => 0
  | b :: rest =>
    ((b :: rest).foldl (fun sum c => sum + c.toNat) (16 * b.toNat)) % 39

/- The environment of programs, in the order of the places. -/
def environment (sh : Shell) : List (String × String) :=
  (sh.vars.filter (fun v => sh.exported.contains v.1)).mergeSort
    (fun a b => placeOf a.1 ≤ placeOf b.1)

/- Give a variable back what it was in another shell. -/
def restoreFrom (before : Shell) (sh : Shell) (name : String) : Shell :=
  let exported := sh.exported.filter (· != name)
  { sh with
    vars := match before.vars.lookup name with
      | some value => putVariable name value sh.vars
      | none => sh.vars.filter (fun v => v.1 != name)
    exported :=
      if before.exported.contains name then name :: exported
      else exported }

/- Give variables back what they were in another shell. -/
def restore (before sh : Shell) (names : List String) : Shell :=
  names.foldl (restoreFrom before) sh

------------------------------------------------------------
-- Streams
------------------------------------------------------------

/- The stream behind a number. -/
def sink (sh : Shell) (stream : Nat) : Sink :=
  (sh.sinks.lookup stream).getD .nowhere

/- Send a stream somewhere else. -/
def setSink (sh : Shell) (stream : Nat) (sink : Sink) : Shell :=
  { sh with
    sinks := (stream, sink) :: sh.sinks.filter (fun s => s.1 != stream) }

/- Write bytes to where a stream goes. -/
def writeTo (sh : Shell) (sink : Sink) (bytes : List UInt8) : Shell :=
  match sink with
  | .nowhere => sh
  | .outside isComplaint =>
    if bytes.isEmpty then sh
    else { sh with printed := ⟨isComplaint, bytes⟩ :: sh.printed }
  | .buffer id =>
    { sh with
      buffers := sh.buffers.map fun (other, held) =>
        if other == id then (other, bytes.reverse ++ held)
        else (other, held) }
  | .file loc =>
    match sh.world.files.node? loc with
    | some (.file content executable) =>
      let files :=
        sh.world.files.put loc (.file (content ++ bytes) executable)
      { sh with world := sh.world.withFiles files }
    | _ => sh

/- Write bytes to a stream. -/
def write (sh : Shell) (stream : Nat) (bytes : List UInt8) : Shell :=
  sh.writeTo (sh.sink stream) bytes

/- Write a text to a stream. -/
def print (sh : Shell) (stream : Nat) (text : String) : Shell :=
  sh.write stream (RawByte.encode text)

/- Complain with the name of the shell and the line. -/
def complain (sh : Shell) (text : String) : Shell :=
  sh.print 2 (sh.name ++ ": " ++ toString sh.line ++ ": " ++ text ++ "\n")

/- Complain for the command that is at work. -/
def complainAs (sh : Shell) (text : String) : Shell :=
  sh.complain (match sh.speaker with
    | some speaker => speaker ++ ": " ++ text
    | none => text)

/- A shell with another status. -/
def withStatus (sh : Shell) (status : Int) : Shell :=
  { sh with status }

/- Give up because a word cannot be expanded. -/
def breakOff (sh : Shell) (text : String) : Shell :=
  { (sh.complainAs text).withStatus 2 with isBroken := true }

/- Set a variable unless it is fixed. -/
def assign (sh : Shell) (name value : String) : Shell :=
  if sh.fixed.contains name then sh.breakOff (name ++ ": is read only")
  else sh.setVariable name value

/- What can be read from the standard input. -/
def supply (sh : Shell) : Supply :=
  ((sh.inputs.lookup 0).bind fun id => sh.supplies.lookup id).getD
    ⟨[], false⟩

/- What is left of the standard input. -/
def stdin (sh : Shell) : List UInt8 :=
  sh.supply.bytes

/- Close a stream. -/
def closeStream (sh : Shell) (stream : Nat) : Shell :=
  { sh.setSink stream .nowhere with
    inputs := sh.inputs.filter (fun i => i.1 != stream) }

/- Let a stream be read from a new supply. -/
def feed (sh : Shell) (stream : Nat) (supply : Supply) : Shell :=
  let id := sh.nextBuffer
  { sh with
    inputs := (stream, id) :: sh.inputs.filter (fun i => i.1 != stream)
    supplies := (id, supply) :: sh.supplies
    nextBuffer := id + 1 }

/- Leave only some bytes to be read from the standard input. -/
def keepUnread (sh : Shell) (bytes : List UInt8) : Shell :=
  match sh.inputs.lookup 0 with
  | none => sh
  | some id =>
    { sh with
      supplies := sh.supplies.map fun (other, supply) =>
        (other, if other == id then { supply with bytes } else supply) }

/- Whether a stream is open. -/
def isOpen (sh : Shell) (stream : Nat) : Bool :=
  (sh.inputs.lookup stream).isSome || (sh.sinks.lookup stream).isSome

/- Let a stream be what another one is. -/
def copyStream (sh : Shell) (stream source : Nat) : Shell :=
  { sh with
    inputs := ((sh.inputs.lookup source).toList.map fun id => (stream, id))
      ++ sh.inputs.filter (fun i => i.1 != stream)
    sinks := ((sh.sinks.lookup source).toList.map fun place => (stream, place))
      ++ sh.sinks.filter (fun s => s.1 != stream) }

/- Start to collect the standard output. -/
def collect (sh : Shell) : Shell × Nat :=
  let id := sh.nextBuffer
  ({ sh with
      buffers := (id, []) :: sh.buffers
      nextBuffer := id + 1 }.setSink 1 (.buffer id), id)

/- What was collected. -/
def collected (sh : Shell) (id : Nat) : List UInt8 :=
  ((sh.buffers.lookup id).getD []).reverse

/-
  The shell after commands that ran in a shell of their own:
  only the world and what was collected are kept of these.
-/
def afterChild (sh child : Shell) : Shell :=
  { sh with
    world := child.world
    buffers := sh.buffers.map fun (id, held) =>
      (id, (child.buffers.lookup id).getD held)
    nextBuffer := child.nextBuffer
    printed := child.printed
    supplies := sh.supplies.map fun (id, supply) =>
      (id, (child.supplies.lookup id).getD supply)
    status := child.status }

------------------------------------------------------------
-- Parameters
------------------------------------------------------------

/- The letters of the options that can be switched, with names. -/
def optionNames : List (Char × String) :=
  [ ('e', "errexit"), ('f', "noglob"), ('I', "ignoreeof"),
    ('i', "interactive"), ('m', "monitor"), ('n', "noexec"),
    ('s', "stdin"), ('x', "xtrace"), ('v', "verbose"), ('V', "vi"),
    ('E', "emacs"), ('C', "noclobber"), ('a', "allexport"),
    ('b', "notify"), ('u', "nounset"), ('p', "privileged") ]

/- The number of the process of the shell. -/
def processNumber : String := "4242"

/- The number of the process of a command in the background. -/
def childNumber : String := "4243"

/- The value of a parameter of a single character. -/
def special? (sh : Shell) (c : Char) : Option String :=
  if c == '?' then some (toString sh.status)
  else if c == '#' then some (toString sh.params.length)
  else if c == '$' then some processNumber
  else if c == '!' then
    some (if sh.background.isSome then childNumber else "")
  else if c == '-' then
    some (String.ofList
      ((optionNames.map Prod.fst).reverse.filter sh.has))
  else none

/- The value of a parameter other than the list of all. -/
def parameter? (sh : Shell) (name : String) : Option String :=
  match name.toList with
  | [c] =>
    if c == '0' then some sh.name
    else if Numeral.isDigit c then
      sh.params[(Numeral.digit? 10 c).getD 0 - 1]?
    else
      match sh.special? c with
      | some value => some value
      | none => sh.valueOf? name
  | text =>
    match Numeral.natural? 10 text with
    | some n => if n == 0 then some sh.name else sh.params[n - 1]?
    | none => sh.valueOf? name

/- The characters that cut the values of variables. -/
def separators (sh : Shell) : List Char :=
  ((sh.valueOf? "IFS").getD " \t\n").toList

/- What stands between parameters that are joined. -/
def glue (sh : Shell) : String :=
  String.ofList (sh.separators.take 1)

/- Complain about a variable that is not set, if that is an error. -/
def missing (sh : Shell) (name : String) : Shell :=
  if sh.has 'u' then sh.breakOff (name ++ ": parameter not set") else sh

/- Drop the line feeds at the end. -/
def dropFinalBreaks (bytes : List UInt8) : List UInt8 :=
  (bytes.reverse.dropWhile (· == 10)).reverse

/- Carry out arithmetic on the variables of a shell. -/
def arithmetic (sh : Shell) (text : List Char) : Option Int × Shell :=
  match Arithmetic.evaluate sh.valueOf? text with
  | .ok (n, assigned) =>
    (some n, assigned.reverse.foldl
      (fun (sh : Shell) (name, value) => sh.assign name (toString value))
      sh)
  | .error (.number wrong) =>
    (none, sh.breakOff ("Illegal number: " ++ wrong))
  | .error (.expression why) =>
    (none, sh.breakOff ("arithmetic expression: " ++ why ++ ": \""
      ++ String.ofList text ++ "\""))

/- The parts of `name=value`, if a text has that form. -/
def assignment? (text : List Char) : Option (String × List Char) :=
  let name := text.takeWhile (· != '=')
  match text.dropWhile (· != '=') with
  | _ :: value =>
    if Script.isName name then some (String.ofList name, value) else none
  | [] => none

end Shell

end Sandbox

end TreeLint
