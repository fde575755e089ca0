import TreeLint.Sandbox.Versions.Lens

/-
  Seeing the files of a work tree.

  Key definitions include:
    * `WorkTree.nodeAt?`
    * `WorkTree.isKnown`
    * `WorkTree.seen?`
    * `WorkTree.entryFor?`

  A file in the work tree is seen as the next commit would
  hold it.  A link on the way to a path hides what lies behind
  it, and another work tree inside of this one counts as one
  file, known by its last commit.
-/

------------------------------------------------------------
-- Places
------------------------------------------------------------

namespace TreeLint

namespace Sandbox

namespace Versions

namespace WorkTree

/- The location of a path below the top. -/
def locationOf (site : Site) (p : Path) : Location :=
  site.top ++ namesOf p

/- The path with some names. -/
def pathOf (names : Location) : Path :=
  Text.joinWith "/" names

/- Whether only directories lead to some names. -/
def isReached (site : Site) (t : FileTree) (names : Location) : Bool :=
  (List.range names.length).all fun n =>
    t.isDirectoryAt (site.top ++ names.take n)

/- The node under a path, unless a link is on the way. -/
def nodeAt? (site : Site) (t : FileTree) (p : Path) : Option Node :=
  if isReached site t (namesOf p) then t.node? (locationOf site p)
  else none

/- The administration directory of another work tree. -/
def nestedAdmin? (t : FileTree) (loc : Location) : Option Location :=
  match adminIn? t loc with
  | .ok found => found
  | .error _ => none

/- The variables that only hold for one repository. -/
def ownVariables : List String :=
  [ "GIT_DIR", "GIT_WORK_TREE", "GIT_INDEX_FILE", "GIT_COMMON_DIR",
    "GIT_PREFIX", "GIT_OBJECT_DIRECTORY" ]

/- Another work tree as a site. -/
def nestedSite? (site : Site) (t : FileTree) (loc : Location) :
    Option Site :=
  (nestedAdmin? t loc).bind fun admin =>
    let env := site.call.env.filter
      (fun (name, _) => !ownVariables.contains name)
    (siteAt t { site.call with cwd := loc, env } admin false
      (some loc)).toOption

/- The last commit of another work tree. -/
def nestedHead? (site : Site) (t : FileTree) (loc : Location) :
    Option String :=
  (nestedSite? site t loc).bind (fun inner => inner.head? t)

------------------------------------------------------------
-- Seeing Files
------------------------------------------------------------

/- Whether a file is executable. -/
def isExecutable : Tracked → Bool
  | .file _ executable => executable
  | _ => false

/- What is remembered of a file in the work tree. -/
def wornOf (t : FileTree) (loc : Location) (content : List UInt8) : Worn :=
  let stamp := t.stamp loc
  ⟨content.length, stamp.second, stamp.changed⟩

/- Whether nothing suggests that a file was changed. -/
def isAsRemembered (site : Site) (t : FileTree) (kept : Option Entry)
    (p : Path) (content : List UInt8) : Bool :=
  (kept.bind Entry.worn).any fun worn =>
    worn == wornOf t (locationOf site p) content

/-
  Whether a file of the work tree need not be looked at: it is
  as it was, and it was written before the index was.  What is
  written in the same second may have come later.
-/
def isKnown (site : Site) (t : FileTree) (kept : Option Entry) (p : Path)
    (content : List UInt8) : Bool :=
  isAsRemembered site t kept p content
    && ((t.node? site.indexFile).isNone
      || (t.stamp (locationOf site p)).second
        < (t.stamp site.indexFile).second)

/- A node as it is kept, if it was kept as an entry before. -/
def asKept (site : Site) (t : FileTree) (lens : Lens) (kept : Option Entry)
    (p : Path) : Node → Option Tracked
  | .file content executable =>
    let executable :=
      if lens.seesModes then executable
      else (kept.map (fun e => isExecutable e.file)).getD false
    match kept.map Entry.file, isKnown site t kept p content with
    | some (.file old _), true => some (.file old executable)
    | some (.link _), _ =>
      if lens.seesLinks then
        some (.file (lens.clean none p content) executable)
      else some (.link (RawByte.decode content))
    | before, _ =>
      some (.file (lens.clean before p content) executable)
  | .link target => some (.link target)
  | .pipe => some (.file [] false)
  | .directory =>
    match nestedHead? site t (locationOf site p), kept.map Entry.file with
    | some id, _ => some (.nested id)
    | none, some (.nested id) => some (.nested id)
    | none, _ => none

/- A file of the work tree as it would be kept. -/
def seen? (site : Site) (t : FileTree) (lens : Lens)
    (kept : Option Entry) (p : Path) : Option Tracked :=
  (nodeAt? site t p).bind (asKept site t lens kept p)

/- A file of the work tree as it is now. -/
def worn? (site : Site) (t : FileTree) (p : Path) : Option Worn :=
  match nodeAt? site t p with
  | some (.file content _) => some (wornOf t (locationOf site p) content)
  | _ => none

/- An entry of the index, as the work tree has it. -/
def now? (site : Site) (t : FileTree) (lens : Lens) (e : Entry) :
    Option Tracked :=
  if e.isFixed then some e.file else seen? site t lens (some e) e.path

/- The entry for a file of the work tree. -/
def entryFor? (site : Site) (t : FileTree) (lens : Lens)
    (kept : Option Entry) (p : Path) : Option Entry :=
  (seen? site t lens kept p).map fun file =>
    { Entry.of p file with worn := worn? site t p }

/- A file that is kept, as its content is found. -/
def found (lens : Lens) : Tracked → Tracked
  | .file content executable => .file (lens.found content) executable
  | file => file

end WorkTree

end Versions

end Sandbox

end TreeLint
