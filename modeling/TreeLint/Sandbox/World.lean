import TreeLint.FileTree.Edit
import TreeLint.FileTree.Walk
import TreeLint.Host
import TreeLint.Sandbox.Archive
import TreeLint.Text.Moment

/-
  A computer held as a value.

  Key definitions include:
    * `Sandbox.World`
    * `Sandbox.Ran`
    * `Sandbox.LaunchError`

  A run can be rehearsed without touching a disk or starting
  a process.  The world of such a rehearsal is a file tree and
  what version control has ever kept.  Texts in it may hold
  bytes that are no UTF-8.
-/

------------------------------------------------------------
-- Worlds
------------------------------------------------------------

namespace TreeLint

namespace Sandbox

/- The files there are and what version control remembers. -/
structure World where
  files : FileTree
  archive : Archive

namespace World

/- The moment at which the clock of a new world starts. -/
def beginning : Moment := 1735689600

/- The moment that it is. -/
def now (world : World) : Moment :=
  beginning + world.files.second

/- The world with another file tree. -/
def withFiles (world : World) (files : FileTree) : World :=
  { world with files }

/- The world with another archive. -/
def withArchive (world : World) (archive : Archive) : World :=
  { world with archive }

end World

------------------------------------------------------------
-- Programs In A World
------------------------------------------------------------

/- What a program is started with. -/
structure Start where
  /- The name under which the program was started. -/
  name : String
  args : List String
  env : List (String × String)
  cwd : Location
  stdin : List UInt8
  /- The input comes from a file, in which one can go back. -/
  isSeekable : Bool := false

/- Bytes that a program printed on one of its two streams. -/
structure Printed where
  isComplaint : Bool
  bytes : List UInt8
deriving DecidableEq, Repr

/- A world after a program, with what the program left behind. -/
structure Ran where
  world : World
  /- There is none when a signal ended the program. -/
  code : Option Int
  /- What was printed, in the order in which it was. -/
  printed : List Printed
  /- What is left of the input, if the program has read from it. -/
  left? : Option (List UInt8) := none

namespace Ran

/- What was printed on one of the two streams. -/
def stream (ran : Ran) (isComplaint : Bool) : List UInt8 :=
  (ran.printed.filter
    (fun p => p.isComplaint == isComplaint)).flatMap Printed.bytes

/- What was printed on the standard output. -/
def out (ran : Ran) : List UInt8 :=
  ran.stream false

/- What was printed on the standard error. -/
def err (ran : Ran) : List UInt8 :=
  ran.stream true

/- A program that printed on both streams. -/
def ending
    (world : World)
    (code : Option Int)
    (out err : List UInt8) : Ran :=
  { world, code, printed := [⟨false, out⟩, ⟨true, err⟩] }

/- A program that printed nothing. -/
def silent (world : World) (code : Int) : Ran :=
  { world, code := some code, printed := [] }

/- A program that printed a text. -/
def printing (world : World) (code : Int) (text : String) : Ran :=
  ending world (some code) (RawByte.encode text) []

/- A program that complained. -/
def complaining (world : World) (code : Int) (text : String) : Ran :=
  ending world (some code) [] (RawByte.encode (text ++ "\n"))

end Ran

/- Why a program cannot be started. -/
inductive LaunchError where
  | notFound
  | notAllowed
  | tooManyLinks
  /- Nobody knows how to carry out what is in the file. -/
  | noFormat
  | tooLong
deriving DecidableEq, Repr

namespace LaunchError

/- The failure to start what cannot be reached. -/
def ofPath : FileTree.PathError → LaunchError
  | .notFound => notFound
  | .notDirectory => notFound
  | .tooManyLinks => tooManyLinks
  | .tooLong => tooLong
  | .notPath => tooLong

/- Whether a search for the program goes on behind the failure. -/
def isPassedOver : LaunchError → Bool
  | notFound => true
  | notAllowed => true
  | _ => false

end LaunchError

/- The wording of a failure to reach a path. -/
def reason : FileTree.PathError → String
  | .notFound => "No such file or directory"
  | .notDirectory => "Not a directory"
  | .tooManyLinks => "Too many levels of symbolic links"
  | .tooLong => "File name too long"
  | .notPath => "Invalid argument"

end Sandbox

end TreeLint
