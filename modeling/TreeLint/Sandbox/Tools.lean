import TreeLint.Sandbox.Condition
import TreeLint.Sandbox.Format
import TreeLint.Sandbox.Handling
import TreeLint.Sandbox.Tools.Calculating
import TreeLint.Sandbox.Tools.Comparing
import TreeLint.Sandbox.Tools.Editing
import TreeLint.Sandbox.Tools.Listing
import TreeLint.Sandbox.Tools.Naming
import TreeLint.Sandbox.Tools.Ordering
import TreeLint.Sandbox.Tools.Passing
import TreeLint.Sandbox.Tools.Reshaping
import TreeLint.Sandbox.Tools.Searching
import TreeLint.Sandbox.Tools.Starting
import TreeLint.Sandbox.Tools.Translating

/-
  Small programs of the sandbox.

  Key definitions include:
    * `Tools.table`
    * `Tools.run?`

  These programs read and change files and print texts.  Each
  is a function from a world and what it is started with to
  the world after it and what it left behind.
-/

------------------------------------------------------------
-- Programs Without Files
------------------------------------------------------------

namespace TreeLint

namespace Sandbox

namespace Tools

/- Say whether a condition holds. -/
def test (world : World) (start : Start) : Ran :=
  match Condition.evaluate world.files start.cwd
      (start.args.length + 1) start.args with
  | .ok true => Ran.silent world 0
  | .ok false => Ran.silent world 1
  | .error why => Ran.complaining world 2 ("test: " ++ why)

/- Print arguments by a format. -/
def printf (world : World) (start : Start) : Ran :=
  match start.args with
  | format :: args =>
    let out := Format.printf format args
    Ran.ending world (some (if out.status == 0 then 0 else 1))
      (RawByte.encode out.whole)
      (RawByte.encode (String.join
        (out.complaints.map (fun text => "printf: " ++ text ++ "\n"))))
  | [] => Ran.complaining world 1 "printf: missing operand"

/- Wait for a time, of which whole seconds count. -/
def sleep (world : World) (start : Start) : Ran :=
  let usage (why : String) : Ran :=
    Ran.complaining world 1 ("sleep: " ++ why
      ++ "\nTry 'sleep --help' for more information.")
  if start.args.isEmpty then usage "missing operand"
  else
    match start.args.find? fun word =>
        (duration? word).isNone && word != "infinity" with
    | some word => usage ("invalid time interval " ++ quoted word)
    | none =>
      let thousandths := (start.args.filterMap duration?).foldl (· + ·) 0
      Ran.silent (world.withFiles (world.files.wait (thousandths / 1000))) 0

/- Print variables of the environment. -/
def printenv (world : World) (start : Start) : Ran :=
  match start.args with
  | [] =>
    Ran.printing world 0 (String.join
      (start.env.map fun (name, value) => name ++ "=" ++ value ++ "\n"))
  | names =>
    let values := names.map fun name => start.env.lookup name
    Ran.printing world (if values.contains none then 1 else 0)
      (String.join (values.filterMap fun value? =>
        value?.map (· ++ "\n")))

/- Print where programs are found. -/
def which (world : World) (start : Start) : Ran :=
  let isAll := start.args.contains "-a"
  let names := start.args.filter fun word => !word.startsWith "-"
  let places (name : String) : List Path :=
    let all := if name.contains '/' then [name]
      else (Text.splitAt ':' ((start.env.lookup "PATH").getD "")).map
        fun directory => directory ++ "/" ++ name
    let found := all.filter (world.files.isProgram start.cwd)
    if isAll then found else found.take 1
  let found := names.map places
  Ran.printing world
    (if names.isEmpty || found.any List.isEmpty then 1 else 0)
    (String.join (found.flatten.map (· ++ "\n")))

/- How many lines a program prints that would print for ever. -/
def endlessLines : Nat := 8192

/- Print a line again and again. -/
def yes (world : World) (start : Start) : Ran :=
  let line := RawByte.encode
    ((if start.args.isEmpty then "y" else String.intercalate " " start.args)
      ++ "\n")
  Ran.ending world none ((List.replicate endlessLines line).flatten) []

/- Print a fixed text. -/
def telling (text : String) (world : World) (_ : Start) : Ran :=
  Ran.printing world 0 (text ++ "\n")

/- Print about the user. -/
def id (world : World) (start : Start) : Ran :=
  let letters := (start.args.filter (·.startsWith "-")).flatMap
    String.toList
  if letters.contains 'u' || letters.contains 'g' || letters.contains 'G' then
    Ran.printing world 0
      (if letters.contains 'n' then "root\n" else "0\n")
  else
    Ran.printing world 0 "uid=0(root) gid=0(root) groups=0(root)\n"

/- Print about the system. -/
def uname (world : World) (start : Start) : Ran :=
  let letters := (start.args.filter (·.startsWith "-")).flatMap
    String.toList
  Ran.printing world 0
    (if letters.contains 'm' && !letters.contains 's' then "x86_64\n"
      else "Linux\n")

------------------------------------------------------------
-- All Of Them
------------------------------------------------------------

/- The programs, by their names. -/
def table : List (String × (World → Start → Ran)) :=
  Handling.table ++
  [ ("cat", cat),
    ("tee", tee),
    ("head", head),
    ("tail", tail),
    ("wc", wc),
    ("ls", ls),
    ("sort", sort),
    ("uniq", uniq),
    ("comm", comm),
    ("cut", cut),
    ("paste", paste),
    ("nl", nl),
    ("tac", tac),
    ("rev", rev),
    ("fold", fold),
    ("expand", expand),
    ("unexpand", unexpand),
    ("tr", tr),
    ("grep", grep),
    ("egrep", grepAs 'E'),
    ("fgrep", grepAs 'F'),
    ("sed", sed),
    ("cmp", cmp),
    ("diff", diff),
    ("expr", expr),
    ("seq", seq),
    ("factor", factor),
    ("basename", basename),
    ("dirname", dirname),
    ("readlink", readlink),
    ("realpath", realpath),
    ("mktemp", mktemp),
    ("test", test),
    ("true", fun world _ => Ran.silent world 0),
    ("false", fun world _ => Ran.silent world 1),
    ("sync", fun world _ => Ran.silent world 0),
    ("sleep", sleep),
    ("echo", fun world start =>
      Ran.printing world 0 (Format.plainEcho start.args)),
    ("printf", printf),
    ("pwd", fun world start =>
      Ran.printing world 0 (start.cwd.toPath ++ "\n")),
    ("printenv", printenv),
    ("which", which),
    ("yes", yes),
    ("whoami", telling "root"),
    ("arch", telling "x86_64"),
    ("id", id),
    ("uname", uname),
    ("tty", fun world _ => Ran.printing world 1 "not a tty\n") ]

/- Run a program by its name. -/
def run? (name : String) (world : World) (start : Start) : Option Ran :=
  (table.lookup name).map (fun program => program world start)

end Tools

end Sandbox

end TreeLint
