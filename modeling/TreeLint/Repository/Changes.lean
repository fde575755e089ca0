import TreeLint.Host
import TreeLint.Path.Set
import TreeLint.Repository.Discovery
import TreeLint.Text.Blank
import TreeLint.Text.Lines

/-
  The files of a work tree that have changed.

  Key definitions include:
    * `Changes.parseNames`
    * `Changes.printedName`
    * `Changes.QueryError`
    * `Changes.invocation`
    * `Changes.query`

  The version control program is asked for the names of the
  files that differ from the last commit.  It prints one name
  a line, seen from the top of the work tree; `printedName`
  says how it writes a name.
-/

------------------------------------------------------------
-- Lists Of Names
------------------------------------------------------------

namespace TreeLint

namespace Changes

/- The paths named by the lines of a text. -/
def parseNames (stdout : String) (top : Path) : PathSet :=
  PathSet.resolved top
    ((Text.nonemptyLines stdout.toList).map String.ofList)

/- An octal digit. -/
def octalDigit (n : Nat) : Char :=
  Char.ofNat (0x30 + n % 8)

/- How one character is written between quotes. -/
def escapedChar (c : Char) : List Char :=
  if c == '"' then ['\\', '"']
  else if c == '\\' then ['\\', '\\']
  else if c == '\x07' then ['\\', 'a']
  else if c == '\x08' then ['\\', 'b']
  else if c == '\t' then ['\\', 't']
  else if c == '\n' then ['\\', 'n']
  else if c == '\x0b' then ['\\', 'v']
  else if c == '\x0c' then ['\\', 'f']
  else if c == '\r' then ['\\', 'r']
  else if c.toNat < 0x20 || c.toNat == 0x7F then
    ['\\', octalDigit (c.toNat / 64), octalDigit (c.toNat / 8),
      octalDigit c.toNat]
  else [c]

/- Whether a name cannot be written as it is. -/
def needsQuotes (c : Char) : Bool :=
  c.toNat < 0x20 || c.toNat == 0x7F || c == '"' || c == '\\'

/-
  How a name is printed: as it is, or between quotes when it
  holds a quote, a backslash or a control character.
-/
def printedName (name : String) : String :=
  if name.toList.any needsQuotes then
    "\"" ++ String.ofList (name.toList.flatMap escapedChar) ++ "\""
  else
    name

------------------------------------------------------------
-- The Query
------------------------------------------------------------

/- Why the changed files are not known. -/
inductive QueryError where
  | notStarted
  /- The program failed with a text on its error stream. -/
  | failed (stderr : String)
  | notText
deriving DecidableEq, Repr

namespace QueryError

/- The wording of the error. -/
def message : QueryError → String
  | notStarted =>
    "Failed to find changed files: "
      ++ "could not execute git diff HEAD --name-only"
  | failed stderr => "Failed to find changed files: " ++ stderr
  | notText => "Git output is not valid UTF-8"

end QueryError

/- The program to ask at the top of a work tree. -/
def invocation (session : Session) (top : Path) : Invocation where
  program := "git"
  args := ["-c", "core.quotePath=false", "diff", "HEAD", "--name-only"]
  env := session.env
  directory :=
    if top.isEmpty then top else Path.join session.directory top

/- What the finished program says. -/
def ofCompleted
    (top : Path)
    (completed : Completed) : Except QueryError PathSet :=
  if completed.exitCode == some 0 then
    match Utf8.decode? completed.stdout with
    | some text => .ok (parseNames (RawByte.hold text) top)
    | none => .error .notText
  else
    .error (.failed
      (Text.trimText
        (RawByte.hold (Utf8.decodeLossy completed.stderr))))

/- Ask for the files that differ from the last commit. -/
def query
    {σ : Type}
    (host : Host σ)
    (session : Session)
    (top : Path)
    (state : σ) : Except QueryError PathSet × σ :=
  match host.start (invocation session top) state with
  | (none, state) => (.error .notStarted, state)
  | (some completed, state) => (ofCompleted top completed, state)

end Changes

end TreeLint
