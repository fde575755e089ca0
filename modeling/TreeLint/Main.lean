import TreeLint.Command.Process
import TreeLint.Sandbox.Machine

/-
  The command line.

  Key definitions include:
    * `Picture.below`
    * `Picture.around`
    * `Picture.environment`
    * `main`

  The command is carried out on a picture of the working
  directory and of the settings above it, taken when it
  starts.  Linters are started in the sandbox, so a run never
  changes the disk.  The lines of the log, which carry the
  time, are left out.
-/

------------------------------------------------------------
-- Pictures Of The Disk
------------------------------------------------------------

namespace TreeLint

namespace Picture

/- The size up to which files have a content in a picture. -/
def sizeLimit : Nat := 1048576

/- Whether a content looks like that of a program. -/
def looksStartable (content : List UInt8) : Bool :=
  match content with
  | 35 :: 33 :: _ => true
  | _ => false

/- The node of a file with a content. -/
def fileNode (content : List UInt8) : Node :=
  .file content (looksStartable content)

/- Add a node to a picture. -/
def add (t : FileTree) (loc : Location) (node : Node) : FileTree :=
  { t with nodes := (loc, node) :: t.nodes }

/- Add an entry of the disk, and what lies below it. -/
partial def below
    (t : FileTree)
    (loc : Location)
    (entry : IO.FS.DirEntry) : IO FileTree := do
  match ← entry.path.symlinkMetadata.toBaseIO with
  | .error _ => return t
  | .ok data =>
    match data.type with
    | .dir =>
      let entries ← entry.path.readDir.toBaseIO
      (entries.toOption.getD #[]).foldlM
        (fun t inner => below t (loc ++ [inner.fileName]) inner)
        (add t loc .directory)
    | .file =>
      if sizeLimit < data.byteSize.toNat then
        return add t loc (fileNode [])
      let content ← (IO.FS.readBinFile entry.path).toBaseIO
      match content with
      | .ok bytes => return add t loc (fileNode bytes.toList)
      | .error _ => return add t loc (fileNode [])
    | .symlink =>
      match ← (IO.FS.realPath entry.path).toBaseIO with
      | .ok target => return add t loc (.link target.toString)
      | .error _ => return add t loc (.link "")
    | .other => return add t loc .pipe

/- Add a file, if it is there, and the directories above it. -/
def single (t : FileTree) (p : Path) : IO FileTree := do
  match ← (IO.FS.readBinFile p).toBaseIO with
  | .error _ => return t
  | .ok bytes =>
    match FileTree.splitLast p with
    | none => return t
    | some (above, _) =>
      let t := match t.makeDirectory [] above with
        | .ok (t, _) => t
        | .error _ => t
      return (t.putNew? [] p (fileNode bytes.toList)).toOption.getD t

/- Take the picture around a working directory. -/
def around (session : Session) (files : FileTree) : IO FileTree := do
  let mut t := files
  for n in List.range session.cwd.length do
    let above := session.cwd.take n
    unless above.isEmpty || (t.node? above).isSome do
      t := add t above .directory
    t ← single t (Path.join (Location.toPath above) Config.repositoryFile)
  t ← below t session.cwd
    ⟨Location.toPath session.cwd.dropLast, session.cwd.getLast?.getD ""⟩
  single t (Config.userFile session)

/- The variables of the environment. -/
def environment : IO (List (String × String)) := do
  match ← (IO.FS.readBinFile "/proc/self/environ").toBaseIO with
  | .error _ => return []
  | .ok bytes =>
    let texts := Text.splitAt '\x00' (RawByte.decode bytes.toList)
    return texts.filterMap fun text =>
      let name := text.toList.takeWhile (· != '=')
      match text.toList.drop name.length with
      | _ :: value => some (String.ofList name, String.ofList value)
      | [] => none

end Picture

------------------------------------------------------------
-- The Command
------------------------------------------------------------

/- Carry the command out on a picture of the disk. -/
def rehearse (options : Options) (session : Session) : IO Exit := do
  let world := Sandbox.World.new
  let files ← Picture.around session world.files
  let trace :=
    options.run Sandbox.machine session (world.withFiles files)
  return Exit.ofTrace (options.console session.wantsStyles) trace

end TreeLint

open TreeLint in
/- Read the command line, carry the command out and print. -/
def main (args : List String) : IO UInt32 := do
  let env ← Picture.environment
  let cwd : Path := (← IO.currentDir).toString
  let session : Session :=
    ⟨(Path.segments cwd).filter (fun s => !s.isEmpty), env⟩
  let exit ← match Options.parse env args with
    | .error error =>
      pure (Exit.ofUsage session.wantsStyledUsage error)
    | .ok options => rehearse options session
  (← IO.getStdout).putStr exit.stdout
  (← IO.getStderr).putStr exit.stderr
  return UInt32.ofNat exit.code
