import TreeLint.Sandbox.Evaluation

/-
  The sandbox as a host.

  Key definitions include:
    * `World.new`
    * `Item`
    * `World.layOut`
    * `World.execute`
    * `machine`

  A new world has the customary programs in `/usr/bin` and an
  empty directory for temporary files.  Files, directories
  and links are then laid out in it.

  The sandbox is no part of the linter runner.  It stands for
  the computer that the runner works on: its shell, the
  programs that scripts call and version control.  The command
  line rehearses its runs on it.  Whatever is proved of the
  runner is proved for any host, and so for this one.
-/

------------------------------------------------------------
-- New Worlds
------------------------------------------------------------

namespace TreeLint

namespace Sandbox

/- The directory of the programs. -/
def programDirectory : Location := ["usr", "bin"]

/- The search path that processes start with. -/
def searchPath : String := "/usr/local/bin:/usr/bin:/bin"

/- The names of the programs. -/
def programNames : List String :=
  "sh" :: "git" :: "env"
    :: (Tools.starters.map Prod.fst ++ Tools.table.map Prod.fst)

/- A program that is built in, as a file. -/
def builtInFile (name : String) : Node :=
  .file (RawByte.encode (builtInStart ++ name)) true

/- The nodes of a new world. -/
def systemNodes : List (Location × Node) :=
  [ (["usr"], .directory),
    (programDirectory, .directory),
    (["bin"], .link "usr/bin"),
    (["dev"], .directory),
    (["dev", "null"], .pipe),
    (["tmp"], .directory) ]
    ++ programNames.map
      (fun name => (programDirectory ++ [name], builtInFile name))

namespace World

/- A world in which nothing has happened yet. -/
def new : World :=
  ⟨{ nodes := systemNodes }, Archive.empty⟩

end World

------------------------------------------------------------
-- Laying Files Out
------------------------------------------------------------

/- Something to be laid out in a world. -/
inductive Item where
  | file (path : Path) (text : String) (executable : Bool)
  | directory (path : Path)
  | link (path : Path) (target : Path)
deriving DecidableEq, Repr

namespace Item

/- Where an item is to be. -/
def path : Item → Path
  | file path _ _ => path
  | directory path => path
  | link path _ => path

/- Put an item into a tree that has the directory for it. -/
def place (t : FileTree) (cwd : Location) : Item → FileTree
  | directory path =>
    match t.makeDirectory cwd path with
    | .ok (t, _) => t
    | .error _ => t
  | link path target =>
    (t.putNew? cwd path (.link target)).toOption.getD t
  | file path text executable =>
    match t.write? cwd path (fun _ => Utf8.encode text) with
    | .error _ => t
    | .ok t =>
      if executable then
        (t.setExecutable? cwd path true).toOption.getD t
      else
        t

/- Lay an item out, with the directories above it. -/
def layOut (t : FileTree) (cwd : Location) (item : Item) : FileTree :=
  match FileTree.splitLast item.path with
  | none => item.place t cwd
  | some (above, _) =>
    match t.makeDirectory cwd above with
    | .ok (t, _) => item.place t cwd
    | .error _ => t

end Item

namespace World

/- Lay items out below a directory. -/
def layOut (world : World) (cwd : Location) (items : List Item) : World :=
  world.withFiles (items.foldl (fun t item => item.layOut t cwd) world.files)

end World

------------------------------------------------------------
-- Starting Programs
------------------------------------------------------------

/- How many interpreters may stand behind each other. -/
def interpreterLimit : Nat := 6

/- The longest argument or variable, its end counted. -/
def textLimit : Nat := 131072

/- How much all arguments and variables may take together. -/
def startLimit : Nat := 2097152

/- The texts of an environment, as programs are given it. -/
def variableTexts (env : List (String × String)) : List String :=
  env.map fun (name, value) => name ++ "=" ++ value

/-
  The variables that a program sees.  A name ends at the first
  equals sign of the whole text, wherever that sign is from.
-/
def seenVariables (env : List (String × String)) :
    List (String × String) :=
  (variableTexts env).filterMap fun text =>
    match text.toList.span (· != '=') with
    | ([], _) => none
    | (name, value) =>
      some (String.ofList name, String.ofList (value.drop 1))

/- Whether an invocation can be handed to a new process at all. -/
def canBeHanded (invocation : Invocation) : Bool :=
  let texts := invocation.program :: invocation.args
    ++ variableTexts invocation.env
  let sizes := texts.map (fun text => text.utf8ByteSize + 1)
  !(invocation.directory :: texts).any (fun text => text.contains '\x00')
    && sizes.all (fun size => size ≤ textLimit)
    && sizes.foldl (fun sum size => sum + size + 8) 0 ≤ startLimit

namespace World

/- Start a program in a world and wait for it. -/
def execute
    (invocation : Invocation)
    (world : World) : Option Completed × World :=
  match world.files.directory? [] invocation.directory with
  | none => (none, world)
  | some cwd =>
    let env := seenVariables invocation.env
    let places := placesIn
      ((env.lookup "PATH").getD defaultSearchPath) invocation.program
    let attempt (place : Path) : Except LaunchError Ran :=
      if canBeHanded invocation then
        runProgram Shell.program interpreterLimit world place
          ⟨invocation.program, invocation.args, env, cwd, [], false⟩
      else
        .error .tooLong
    match firstStarted attempt .notFound places with
    | .error _ => (none, world)
    | .ok ran => (some ⟨ran.code, ran.out, ran.err⟩, ran.world)

end World

/- The sandbox as a computer on which linters run. -/
def machine : Host World where
  files := World.files
  start := World.execute

end Sandbox

end TreeLint
