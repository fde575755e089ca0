import TreeLint.Sandbox.Versions.Desk

/-
  The files of a work tree.

  Key definitions include:
    * `WorkTree.check`
    * `WorkTree.learn`
    * `WorkTree.candidates`
    * `WorkTree.layOut`
    * `WorkTree.remove`

  What is known of the files may be out of date, and then they
  are looked at again.  Files that nobody tracks are found by
  going through the work tree, and files are laid out in it
  and removed from it.
-/

------------------------------------------------------------
-- Looking Again
------------------------------------------------------------

namespace TreeLint

namespace Sandbox

namespace Versions

namespace WorkTree

/- Whether a file may be like its entry, by the number of its bytes. -/
def hasSize (e : Entry) (content : List UInt8) : Bool :=
  e.worn.all (fun worn => worn.size == content.length)

/- Why a file of the work tree cannot be seen as it would be kept. -/
def fault? (desk : Desk) (isForKeeping isThorough : Bool)
    (kept : Option Entry) (p : Path) : Option String :=
  match nodeAt? desk.site desk.files p with
  | some (.file content _) =>
    if isKnown desk.site desk.files kept p content
        || kept.any (fun e =>
          e.isFixed || !(isThorough || hasSize e content)) then
      none
    else
      desk.lens.fault? isForKeeping (kept.map Entry.file) p content
  | _ => none

/- Give up if a file of the work tree cannot be seen. -/
def check (isForKeeping isThorough : Bool) (paths : List Path) :
    Job Unit := do
  let desk ← get
  match paths.findSome? (fun p =>
      fault? desk isForKeeping isThorough (desk.index.merged? p) p) with
  | some text => Job.fatal text
  | none => pure ()

/- An entry that learns of a file that is as it should be. -/
def refreshedEntry (desk : Desk) (lens : Lens) (e : Entry) : Entry :=
  match nodeAt? desk.site desk.files e.path with
  | some (.file content _) =>
    if e.stage == 0 && !e.isFixed && hasSize e content
        && !isKnown desk.site desk.files (some e) e.path content
        && now? desk.site desk.files lens e == some e.file then
      { e with worn := worn? desk.site desk.files e.path }
    else e
  | _ => e

/- Learn which files of the work tree are as they should be. -/
def learn : Job Unit := do
  let desk ← get
  check false false desk.index.paths
  let lens := desk.lens
  Job.changeIndex (fun index => index.map (refreshedEntry desk lens))

/- Learn again, and write down what was learned, if that is allowed. -/
def learnQuietly : Job Unit := do
  let before := (← get).index
  learn
  let desk ← get
  let lock := Job.lockOf desk.site.indexFile
  if desk.index != before && (desk.files.node? lock).isNone
      && desk.site.valueOf? "GIT_OPTIONAL_LOCKS" != some "0" then
    Job.putIndexAt desk.site.indexFile

------------------------------------------------------------
-- Files Of A Work Tree
------------------------------------------------------------

/- The work trees inside of a work tree, by their names. -/
def nestedTops (site : Site) (t : FileTree) : List Location :=
  t.nodes.filterMap fun ((loc, _) : Location × Node) =>
    if loc.getLast? == some Repository.adminName
        && site.top.isPrefixOf loc
        && loc.length != site.top.length + 1
        && (nestedAdmin? t loc.dropLast).isSome then
      some (loc.dropLast.drop site.top.length)
    else
      none

/- Whether names lie strictly below one of some other names. -/
def isBelow (tops : List Location) (names : Location) : Bool :=
  tops.any (fun top => top.isPrefixOf names && top != names)

/-
  The paths of all files in a work tree, those of the
  administration left out.  Another work tree is one of them.
-/
def candidates (site : Site) (t : FileTree) : List Path :=
  let tops := nestedTops site t
  let names := t.nodes.filterMap fun (loc, node) =>
    if site.top.isPrefixOf loc then
      let names := loc.drop site.top.length
      let isFile := match node with
        | .file _ _ => true
        | .link _ => true
        | .directory => tops.contains names
        | .pipe => false
      if isFile && !names.contains Repository.adminName
          && !names.isEmpty && !isBelow tops names then
        some names
      else
        none
    else
      none
  (names.map pathOf).mergeSort RawByte.precedes

/- The paths of the directories in a work tree. -/
def directories (site : Site) (t : FileTree) : List Path :=
  let tops := nestedTops site t
  let names := t.nodes.filterMap fun (loc, node) =>
    let names := loc.drop site.top.length
    if site.top.isPrefixOf loc && node == .directory && !names.isEmpty
        && !names.contains Repository.adminName && !isBelow tops names then
      some names
    else
      none
  (names.map pathOf).mergeSort RawByte.precedes

/- Whether the index holds a path or something above it. -/
def isTracked (index : Index) (p : Path) : Bool :=
  index.any fun e =>
    e.path == p || (p.startsWith (e.path ++ "/")
      && match e.file with | .nested _ => true | _ => false)

/- The paths in a work tree that the index does not hold. -/
def untracked (site : Site) (t : FileTree) (index : Index) : List Path :=
  (candidates site t).filter (fun p => !isTracked index p)

------------------------------------------------------------
-- Changing A Work Tree
------------------------------------------------------------

/- Make way for a path: only directories lead to it. -/
def clearWay (top : Location) (names : Location) (t : FileTree) :
    FileTree :=
  (List.range names.length).foldl
    (fun t n =>
      let loc := top ++ names.take n
      if t.isDirectoryAt loc then t
      else (t.erase loc).put loc .directory)
    t

/- Put a file into a work tree, in place of what is there. -/
def layOut (site : Site) (lens : Lens) (t : FileTree)
    (p : Path) (file : Tracked) : FileTree :=
  let names := namesOf p
  let loc := site.top ++ names
  let t := clearWay site.top names t
  match file with
  | .file content executable =>
    (t.erase loc).put loc
      (.file (lens.smudge p content blobId) executable)
  | .link target =>
    (t.erase loc).put loc
      (if lens.seesLinks then .link target
        else .file (RawByte.encode target) false)
  | .nested _ =>
    if t.isDirectoryAt loc then t else (t.erase loc).put loc .directory

/- Remove the directories above a path that have become empty. -/
def pruneAbove (site : Site) (t : FileTree) : List String → FileTree
  | [] => t
  | name :: above =>
    let loc := site.top ++ (name :: above).reverse
    if t.isDirectoryAt loc && t.isEmptyAt loc
        && !loc.isPrefixOf site.call.cwd then
      pruneAbove site (t.erase loc) above
    else
      t

/- Remove a file of a work tree. -/
def remove (site : Site) (t : FileTree) (p : Path) : FileTree :=
  match nodeAt? site t p with
  | none => pruneAbove site t ((namesOf p).reverse.drop 1)
  | some .directory =>
    let loc := locationOf site p
    if t.isEmptyAt loc then
      pruneAbove site (t.erase loc) ((namesOf p).reverse.drop 1)
    else t
  | some _ =>
    pruneAbove site (t.erase (locationOf site p))
      ((namesOf p).reverse.drop 1)

/- An entry whose file has just been laid out. -/
def worn (site : Site) (t : FileTree) (e : Entry) : Entry :=
  { e with worn := worn? site t e.path }

end WorkTree

end Versions

end Sandbox

end TreeLint
