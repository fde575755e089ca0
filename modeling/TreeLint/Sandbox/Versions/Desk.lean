import TreeLint.Sandbox.Versions.Seeing
import TreeLint.Sandbox.Versions.Revisions

/-
  What a command of version control works on.

  Key definitions include:
    * `Desk`
    * `Job`
    * `Job.saveIndex`
    * `Desk.carryOut`

  A command works on a repository of a world.  It has read the
  index of the repository, and it may print.  Where a command
  gives up, what it has done so far is done.
-/

------------------------------------------------------------
-- Desks
------------------------------------------------------------

namespace TreeLint

namespace Sandbox

namespace Versions

/- A repository in a world, with what has been printed so far. -/
structure Desk where
  world : World
  site : Site
  index : Index
  out : List UInt8
  err : List UInt8

/- A part of a command. -/
abbrev Job := EStateM Failure Desk

namespace Desk

/-
  An index without notes that files are not wanted if they are
  there after all, where such notes are made by rules.
-/
def withFound (site : Site) (t : FileTree) (index : Index) : Index :=
  if site.flag "core.sparsecheckout" false
      && !site.flag "sparse.expectfilesoutsideofpatterns" false then
    index.map fun e =>
      if e.skipped && (t.node? (site.top ++ namesOf e.path)).isSome then
        { e with skipped := false }
      else e
  else index

/- The index of a site. -/
def indexOf (world : World) (site : Site) : Attempt Index :=
  (indexIn world site.indexFile).map (withFound site world.files)

/- A desk with the index of a site. -/
def ofSite (world : World) (site : Site) : Attempt Desk :=
  (indexOf world site).map fun index => ⟨world, site, index, [], []⟩

/- The files of the world. -/
def files (desk : Desk) : FileTree :=
  desk.world.files

/- The files of the last commit. -/
def headFiles (desk : Desk) : Snapshot :=
  desk.site.headFiles desk.world

/- What the files of the work tree are seen through. -/
def lens (desk : Desk) : Lens :=
  Lens.ofTree desk.site desk.world desk.index

/- Carry a job out; its outcome is the exit code. -/
def carryOut (desk : Desk) (job : Job Int) : Ran :=
  match job.run desk with
  | .ok code desk => ending desk (some code) desk.err
  | .error failure desk =>
    let text := if failure.text.isEmpty then "" else failure.text ++ "\n"
    ending desk (some failure.code) (desk.err ++ RawByte.encode text)
where
  /- What goes to the standard output is held back to the end. -/
  ending (desk : Desk) (code : Option Int) (err : List UInt8) : Ran :=
    { world := desk.world, code, printed := [⟨true, err⟩, ⟨false, desk.out⟩] }

end Desk

------------------------------------------------------------
-- Jobs
------------------------------------------------------------

namespace Job

/- Take over the outcome of an attempt. -/
def attempt {α : Type} : Attempt α → Job α
  | .ok a => pure a
  | .error failure => throw failure

/- The files of the world. -/
def files : Job FileTree :=
  return (← get).world.files

/- Change the files of the world. -/
def changeFiles (change : FileTree → FileTree) : Job Unit :=
  modify fun desk =>
    { desk with world := desk.world.withFiles (change desk.world.files) }

/- Keep something in the archive under a name. -/
def keep (id : String) (object : Kept) : Job Unit :=
  modify fun desk =>
    { desk with
      world := desk.world.withArchive (desk.world.archive.keep id object) }

/- Change the index on the desk. -/
def changeIndex (change : Index → Index) : Job Unit :=
  modify fun desk => { desk with index := change desk.index }

/- Print a line. -/
def say (text : String) : Job Unit :=
  modify fun desk =>
    { desk with out := desk.out ++ RawByte.encode (text ++ "\n") }

/- Print bytes. -/
def print (bytes : List UInt8) : Job Unit :=
  modify fun desk => { desk with out := desk.out ++ bytes }

/- Print a line on the error stream. -/
def complain (text : String) : Job Unit :=
  modify fun desk =>
    { desk with err := desk.err ++ RawByte.encode (text ++ "\n") }

/- Give up with an exit code and a text. -/
def fail {α : Type} (code : Int) (text : String) : Job α :=
  throw ⟨code, text⟩

/- Give up. -/
def fatal {α : Type} (text : String) : Job α :=
  throw (Failure.fatal text)

/- The ending of files that say that another file is being written. -/
def lockEnding : String := ".lock"

/- A location with an ending behind its last name. -/
def withEnding (loc : Location) (ending : String) : Location :=
  loc.dropLast ++ [(loc.getLast?.getD "") ++ ending]

/- The file that says that an index is being written. -/
def lockOf (file : Location) : Location :=
  withEnding file lockEnding

/- Check that an index can be written to a file. -/
def checkLock (file : Location) : Job Unit := do
  let t ← files
  let lock := lockOf file
  if (t.node? lock).isSome then
    fatal ("Unable to create '" ++ lock.toPath ++ "': File exists.")
  if !t.isDirectoryAt file.dropLast then
    fatal ("Unable to create '" ++ lock.toPath
      ++ "': No such file or directory")

/-
  Forget what is known of a file that may have been changed in
  the second in which the index was written, if it was.
-/
def forgotten (desk : Desk) (lens : Lens) (e : Entry) : Entry :=
  let t := desk.files
  let isDoubtful := e.worn.any fun worn =>
    (t.node? desk.site.indexFile).isSome
      && (t.stamp desk.site.indexFile).second ≤ worn.second
  if isDoubtful && WorkTree.now? desk.site t lens e != some e.file then
    { e with worn := none }
  else e

/- Put the index on the desk into a file. -/
def putIndexAt (file : Location) : Job Unit := do
  modify fun desk =>
    if (desk.files.stamp desk.site.indexFile).second < desk.files.second then
      { desk with index := desk.index.map (forgotten desk desk.lens) }
    else desk
  let desk ← get
  let archive := desk.world.archive
  let number := archive.unused
  let world : World :=
    ⟨desk.world.files.put file (textFile (indexStart ++ toString number)),
      { archive with
        indexes := (number, desk.index) :: archive.indexes
        unused := number + 1 }⟩
  set { desk with world }

/- Write the index on the desk to a file. -/
def saveIndexAt (file : Location) : Job Unit := do
  checkLock file
  putIndexAt file

/- Write the index on the desk to its file. -/
def saveIndex : Job Unit := do
  saveIndexAt (← get).site.indexFile

/- Write a file in an administration directory. -/
def writeAdmin (name text : String) : Job Unit := do
  let admin := (← get).site.admin
  changeFiles fun t => Site.putDeep t (admin ++ namesOf name) (textFile text)

/- Remove a file in an administration directory. -/
def removeAdmin (name : String) : Job Unit := do
  let admin := (← get).site.admin
  changeFiles fun t => t.erase (admin ++ namesOf name)

/- The text of a file in an administration directory. -/
def adminText? (name : String) : Job (Option String) := do
  let desk ← get
  match desk.world.files.node? (desk.site.admin ++ namesOf name) with
  | some (.file content _) => return some (RawByte.decode content)
  | _ => return none

/- The commit in a file in an administration directory. -/
def adminId? (name : String) : Job (Option String) := do
  match ← adminText? name with
  | some text =>
    let id := String.ofList (text.toList.take 40)
    return if isId id then some id else none
  | none => return none

/- Make a commit and keep it. -/
def makeCommit (parents : List String) (files : Snapshot)
    (message : String) : Job String := do
  let desk ← get
  let archive := desk.world.archive
  let id := objectId "commit" (RawByte.encode (toString archive.unused))
  set { desk with
    world := desk.world.withArchive
      { archive with unused := archive.unused + 1 } }
  keep id (.commit ⟨parents, files, message⟩)
  return id

end Job

end Versions

end Sandbox

end TreeLint
