import TreeLint.Host

/-
  Finding the program of a linter.

  Key definitions include:
    * `Program.isBare`
    * `Program.absolute`
    * `Program.expandHome?`
    * `Program.searchPath`
    * `Program.find?`

  A bare name is looked up in the directories of the search
  path, in order; a tilde in front of one of them stands for
  the home directory.  Any other name is a path, seen from
  the working directory.  Only a regular file that can be
  started is a program, and what is found is absolute.
-/

------------------------------------------------------------
-- Program Names
------------------------------------------------------------

namespace TreeLint

namespace Program

/- A name that is looked up in the search path. -/
def isBare (name : Path) : Bool :=
  name.parts.length ≤ 1

/- A path as seen from a directory. -/
def absolute (cwd : Path) (name : Path) : Path :=
  if name.isAbsolute then
    name
  else
    name.steps.foldl Path.join cwd

------------------------------------------------------------
-- The Search Path
------------------------------------------------------------

/- The directories of the search path, if it is set. -/
def searchPath (session : Session) : List Path :=
  match session.valueOf? "PATH" with
  | none => []
  | some text => Text.splitAt ':' text

/- The home directory; an empty name is none. -/
def home? (session : Session) : Option Path :=
  (session.valueOf? "HOME").filter (fun home => !home.isEmpty)

/- What stands for the home directory as a first part. -/
def homeMark : String := "~"

/-
  A directory of the search path with its tilde replaced.  A
  tilde without a home directory stands for none.
-/
def expandHome? (session : Session) (directory : Path) : Option Path :=
  if directory.isAbsolute || directory.startsWithDot then
    some directory
  else
    match directory.steps with
    | first :: rest =>
      if first == homeMark then
        (home? session).map fun home => rest.foldl Path.join home
      else some directory
    | [] => some directory

/- The places where the program may be, in order. -/
def candidates (session : Session) (name : Path) : List Path :=
  if isBare name then
    (searchPath session).filterMap fun directory =>
      (expandHome? session directory).map fun directory =>
        absolute session.directory (Path.join directory name)
  else
    [absolute session.directory name]

/- The first place where there is a program. -/
def find?
    (t : FileTree)
    (session : Session)
    (name : Path) : Option Path :=
  (candidates session name).find? (t.isProgram session.cwd)

/- An absolute name is not looked up anywhere else. -/
theorem find?_of_isAbsolute
    (t : FileTree)
    (session : Session)
    {name : Path}
    (hAbsolute : name.isAbsolute = true)
    (hPlace : isBare name = false) :
    find? t session name =
      if t.isProgram session.cwd name then some name else none := by
  have hCandidates : candidates session name = [name] := by
    simp [candidates, hPlace, absolute, hAbsolute]
  rw [find?, hCandidates, List.find?_singleton]

end Program

end TreeLint
