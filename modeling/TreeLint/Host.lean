import TreeLint.FileTree.Basic
import TreeLint.Text.Utf8

/-
  The computer on which linters run.

  Key definitions include:
    * `Session`
    * `Invocation`
    * `Completed`
    * `Host`

  A host has a state, of which a run sees the file tree, and
  it can start programs.  Nothing else is assumed about it, so
  what holds for every host holds for every behaviour of the
  programs that it starts.
-/

------------------------------------------------------------
-- Sessions
------------------------------------------------------------

namespace TreeLint

/- Where a process works, and its environment. -/
structure Session where
  cwd : Location
  env : List (String × String)
deriving DecidableEq, Repr

namespace Session

/- The value of a variable of the environment. -/
def valueOf? (session : Session) (name : String) : Option String :=
  session.env.lookup name

/- The value of a variable that is a text. -/
def textOf? (session : Session) (name : String) : Option String :=
  (session.valueOf? name).filter RawByte.isText

/- The working directory as an absolute path. -/
def directory (session : Session) : Path :=
  session.cwd.toPath

/- Set a variable, in place of an old value. -/
def setVariable
    (name value : String)
    (env : List (String × String)) : List (String × String) :=
  env.filter (fun entry => entry.1 != name) ++ [(name, value)]

/- An environment with some variables set on top of it. -/
def extend
    (env : List (String × String))
    (additions : List (String × String)) : List (String × String) :=
  additions.foldl (fun env (name, value) => setVariable name value env) env

end Session

------------------------------------------------------------
-- Programs
------------------------------------------------------------

/- A program to be started. -/
structure Invocation where
  program : Path
  args : List String
  env : List (String × String)
  /- The directory in which it is started. -/
  directory : Path
deriving DecidableEq, Repr

/- What a finished program leaves behind. -/
structure Completed where
  /- There is none when a signal ended the program. -/
  exitCode : Option Int
  stdout : List UInt8
  stderr : List UInt8
deriving DecidableEq, Repr

/- A computer with a state that programs may change. -/
structure Host (σ : Type) where
  /- The files there are. -/
  files : σ → FileTree
  /- Start a program and wait for it; `none` if it cannot be started. -/
  start : Invocation → σ → Option Completed × σ

end TreeLint
