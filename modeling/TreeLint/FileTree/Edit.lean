import TreeLint.FileTree.Basic

/-
  Changing file trees.

  Key definitions include:
    * `FileTree.put`
    * `FileTree.erase`
    * `FileTree.restamp`
    * `FileTree.makeDirectory`
    * `FileTree.creationSite`
    * `FileTree.write?`
    * `FileTree.putNew?`

  Every change replaces the nodes at some locations and keeps
  all others.  Paths are followed through links, so a file is
  written where the path leads, and a link to nothing is a
  place where a file can come into being.
-/

------------------------------------------------------------
-- Locations
------------------------------------------------------------

namespace TreeLint

namespace FileTree

/- The stamp of a node that comes in place of another one. -/
def stampFor (t : FileTree) (loc : Location) (node : Node) : Stamp :=
  match t.node? loc, node with
  | some (.file old wasProgram), .file new isProgram =>
    if wasProgram != isProgram && old == new then
      { t.stamp loc with changed := t.second }
    else t.now
  | _, _ => t.now

/- Put a node at a location, in place of an old one. -/
def put (t : FileTree) (loc : Location) (node : Node) : FileTree :=
  { t with
    nodes := (loc, node) :: t.nodes.filter (fun entry => entry.1 != loc)
    stamps := (loc, t.stampFor loc node)
      :: t.stamps.filter (fun entry => entry.1 != loc)
    part := t.part + 1 }

/- Remove a location with all that lies below it. -/
def erase (t : FileTree) (loc : Location) : FileTree :=
  { t with
    nodes := t.nodes.filter (fun entry => !loc.isPrefixOf entry.1)
    stamps := t.stamps.filter (fun entry => !loc.isPrefixOf entry.1) }

/- The tree with nothing but its root. -/
def empty : FileTree :=
  { nodes := [] }

/- Where a location is after another one has been moved. -/
def moved (source dest loc : Location) : Location :=
  if source.isPrefixOf loc then dest ++ loc.drop source.length else loc

/-
  Move a location with all that lies below it.  The node that
  is moved is changed by that, those below it are not.
-/
def move (t : FileTree) (source dest : Location) : FileTree :=
  let rest := t.erase dest
  { t with
    nodes := rest.nodes.map
      (fun (loc, node) => (moved source dest loc, node))
    stamps := (dest, { t.stamp source with changed := t.second })
      :: (rest.stamps.filter (fun entry => entry.1 != source)).map
        (fun (loc, stamp) => (moved source dest loc, stamp)) }

/- Say when the content of the node at a location was written. -/
def restamp (t : FileTree) (loc : Location) (stamp : Stamp) : FileTree :=
  if (t.node? loc).isSome then
    { t with
      stamps := (loc, { stamp with changed := t.second })
        :: t.stamps.filter (fun entry => entry.1 != loc)
      part := t.part + 1 }
  else t

/- Let some seconds go by. -/
def wait (t : FileTree) (seconds : Nat) : FileTree :=
  { t with second := t.second + seconds }

/- Whether nothing lies below a location. -/
def isEmptyAt (t : FileTree) (loc : Location) : Bool :=
  (t.names loc).isEmpty

------------------------------------------------------------
-- Directories
------------------------------------------------------------

/- Go along segments and make the directories that are missing. -/
def makeAlong
    (t : FileTree)
    (loc : Location) :
    List String → Except PathError (FileTree × Location)
  | [] => .ok (t, loc)
  | segment :: rest =>
    match t.advance true linkLimit loc [segment, Path.current] with
    | .ok next => t.makeAlong next rest
    | .error e =>
      if (t.node? (loc ++ [segment])).isNone && t.isDirectoryAt loc then
        (t.put (loc ++ [segment]) .directory).makeAlong
          (loc ++ [segment]) rest
      else
        .error e

/- Make the directory that a path names, and those above it. -/
def makeDirectory
    (t : FileTree)
    (cwd : Location)
    (p : Path) : Except PathError (FileTree × Location) :=
  t.makeAlong (origin cwd p)
    (p.segments.filter (fun segment => !Path.isIdle segment))

------------------------------------------------------------
-- Where Paths Can Be Created
------------------------------------------------------------

/- A path without the slashes behind it. -/
def withoutSlashes (p : Path) : Path :=
  let kept := (p.toList.reverse.dropWhile (· == '/')).reverse
  if kept.isEmpty then p else String.ofList kept

/- The last name of a path and the path to its directory. -/
def splitLast (p : Path) : Option (Path × String) :=
  match (p.segments.filter (fun s => !Path.isIdle s)).reverse with
  | [] => none
  | last :: above =>
    let directory := Text.joinWith "/" above.reverse
    if p.isAbsolute then
      some ("/" ++ directory, last)
    else if above.isEmpty then
      some (Path.current, last)
    else
      some (directory, last)

/- Where a directory entry of a new name would be. -/
def entrySite
    (t : FileTree)
    (cwd : Location)
    (p : Path) : Except PathError Location :=
  match t.locateEntry cwd p with
  | .ok loc => .ok loc
  | .error e =>
    match splitLast p with
    | none => .error e
    | some (directory, last) =>
      match t.directory? cwd directory with
      | some dir =>
        if last == Path.parent || (t.node? (dir ++ [last])).isSome then
          .error e
        else
          .ok (dir ++ [last])
      | none => .error e

/- Where a path leads, or would lead once a file is created. -/
def creationSite
    (t : FileTree)
    (cwd : Location)
    (p : Path) : Nat → Except PathError Location
  | 0 => .error .tooManyLinks
  | links + 1 =>
    match t.locate cwd p with
    | .ok loc => .ok loc
    | .error e =>
      match t.entrySite cwd p with
      | .error e => .error e
      | .ok loc =>
        match t.node? loc with
        | some (.link target) =>
          t.creationSite loc.dropLast target links
        | some _ => .error e
        | none => if p.endsWith "/" then .error e else .ok loc

------------------------------------------------------------
-- Files And Links
------------------------------------------------------------

/- Change the file that a path leads to, or create it. -/
def write?
    (t : FileTree)
    (cwd : Location)
    (p : Path)
    (change : List UInt8 → List UInt8) : Except PathError FileTree :=
  match t.creationSite cwd p linkLimit with
  | .error e => .error e
  | .ok loc =>
    match t.node? loc with
    | some (.file content executable) =>
      .ok (t.put loc (.file (change content) executable))
    | some .pipe => .ok t
    | some _ => .error .notFound
    | none => .ok (t.put loc (.file (change []) false))

/- Say whether the file that a path leads to can be started. -/
def setExecutable?
    (t : FileTree)
    (cwd : Location)
    (p : Path)
    (executable : Bool) : Except PathError FileTree :=
  match t.locate cwd p with
  | .error e => .error e
  | .ok loc =>
    match t.node? loc with
    | some (.file content _) => .ok (t.put loc (.file content executable))
    | _ => .ok t

/- Put a node under a new name. -/
def putNew?
    (t : FileTree)
    (cwd : Location)
    (p : Path)
    (node : Node) : Except PathError FileTree :=
  match t.entrySite cwd p with
  | .error e => .error e
  | .ok loc => .ok (t.put loc node)

end FileTree

end TreeLint
