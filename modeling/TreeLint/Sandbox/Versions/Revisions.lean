import TreeLint.Sandbox.Versions.References
import TreeLint.Text.Digest

/-
  Ways to name what is kept.

  Key definitions include:
    * `Versions.blobId`
    * `Versions.treeId`
    * `Versions.Site.revision?`
    * `Versions.Site.commitOf`
    * `Versions.Site.isAncestor`
    * `Versions.Site.mergeBases`

  A revision is the name of a reference or of something kept,
  perhaps with steps behind it: to a parent, to an ancestor,
  to what a tag stands for or to what a reference was before.
-/

------------------------------------------------------------
-- Digests Of What Is Kept
------------------------------------------------------------

namespace TreeLint

namespace Sandbox

namespace Versions

/- The digest of something of a kind. -/
def objectId (kind : String) (content : List UInt8) : String :=
  Digest.text
    (RawByte.encode (kind ++ " " ++ toString content.length)
      ++ 0 :: content)

/- The digest of a content. -/
def blobId (content : List UInt8) : String :=
  objectId "blob" content

/- The digest of a file. -/
def fileId : Tracked → String
  | .file content _ => blobId content
  | .link target => blobId (RawByte.encode target)
  | .nested commit => commit

/- The mode of a file. -/
def modeOf : Tracked → String
  | .file _ false => "100644"
  | .file _ true => "100755"
  | .link _ => "120000"
  | .nested _ => "160000"

/- The bytes that two digits each stand for. -/
def unhex : List Char → List UInt8
  | a :: b :: rest =>
    UInt8.ofNat
      ((Numeral.digit? 16 a).getD 0 * 16 + (Numeral.digit? 16 b).getD 0)
      :: unhex rest
  | _ => []

/- The digest of a snapshot, directory by directory. -/
def treeIdOf : Nat → Snapshot → String
  | 0, _ => ""
  | depth + 1, files =>
    let firsts := (files.map fun (p, _) =>
      ((Text.splitAt '/' p).head?).getD "").eraseDups
    let rows := firsts.map fun name =>
      match files.file? name with
      | some file => (name, name, modeOf file, fileId file)
      | none =>
        let inner := files.filterMap fun ((p, file) : Path × Tracked) =>
          if p.startsWith (name ++ "/") then
            some (without (name ++ "/") p, file)
          else none
        (name ++ "/", name, "40000", treeIdOf depth inner)
    let sorted := rows.mergeSort
      (fun a b => RawByte.precedes a.1 b.1)
    objectId "tree" (sorted.flatMap fun (_, name, mode, id) =>
      RawByte.encode (mode ++ " " ++ name) ++ 0 :: unhex id.toList)

/- The digest of a snapshot. -/
def treeId (files : Snapshot) : String :=
  treeIdOf 64 files

------------------------------------------------------------
-- Parts Of Snapshots
------------------------------------------------------------

/- The part of a snapshot in a directory. -/
def partOf (files : Snapshot) (p : Path) : Snapshot :=
  files.filterMap fun ((q, file) : Path × Tracked) =>
    if q.startsWith (p ++ "/") then some (without (p ++ "/") q, file)
    else none

/- The directories of a snapshot, its top being the first. -/
def directoriesOf (files : Snapshot) : List Path :=
  "" :: (files.flatMap fun ((p, _) : Path × Tracked) =>
    let names := Text.splitAt '/' p
    (List.range (names.length - 1)).map fun n =>
      Text.joinWith "/" (names.take (n + 1))).eraseDups

/- How the text in the file of an index starts. -/
def indexStart : String := "DIRC "

/- The index that a file stands for; without a file it is empty. -/
def indexIn (world : World) (file : Location) : Attempt Index :=
  match world.files.node? file with
  | some (.file content _) =>
    let text := RawByte.decode content
    let found := if text.startsWith indexStart then
        (Numeral.natural? 10 (text.toList.drop indexStart.length)).bind
          fun number => List.lookup number world.archive.indexes
      else
        none
    match found with
    | some index => .ok index
    | none => .error (.fatal "index file corrupt")
  | some .directory => .error (.fatal "index file open failed")
  | _ => .ok []

/- The digest of a content or a tree. -/
def digestOf : Kept → String
  | .blob content => blobId content
  | .tree files => treeId files
  | .tag target => target
  | .commit _ => ""

/- What a snapshot has on a path. -/
def inside? (files : Snapshot) (p : Path) : Option Kept :=
  if p.isEmpty then some (.tree files)
  else
    match files.file? p with
    | some (.file content _) => some (.blob content)
    | some (.link target) => some (.blob (RawByte.encode target))
    | some (.nested _) => none
    | none =>
      match partOf files p with
      | [] => none
      | inner => some (.tree inner)

/- The digest of the snapshot without files. -/
def emptyTreeId : String := treeId []

/- The snapshots of all that is kept and of all indexes. -/
def snapshotsOf (archive : Archive) : List Snapshot :=
  archive.objects.filterMap (fun (_, kept) =>
    match kept with
    | .commit c => some c.files
    | .tree files => some files
    | _ => none)
    ++ archive.indexes.map (fun (_, index) => index.snapshot)

/- What is kept under a digest, on its own or in a snapshot. -/
def stored? (archive : Archive) (id : String) : Option Kept :=
  let id := archive.standIn Archive.stepLimit id
  match archive.objects.lookup id with
  | some kept => some kept
  | none =>
    if id == emptyTreeId then some (.tree [])
    else
      (snapshotsOf archive).findSome? fun files =>
        ((directoriesOf files ++ files.map Prod.fst).filterMap
          (inside? files)).find? (fun kept => digestOf kept == id)

/- The content that is found in place of another one. -/
def contentFor (archive : Archive) (content : List UInt8) : List UInt8 :=
  if archive.substitutes.isEmpty then content
  else
    match stored? archive (blobId content) with
    | some (.blob other) => other
    | _ => content

namespace Site

/- The prefix of references that say what something is replaced by. -/
def substituteStart : String := "refs/replace/"

/- What is to be found in place of something else. -/
def substitutes (site : Site) (t : FileTree) : List (String × String) :=
  if (site.valueOf? "GIT_NO_REPLACE_OBJECTS").isSome
      || !site.flag "core.usereplacerefs" true then []
  else
    (site.references t substituteStart).filterMap fun name =>
      (site.reference? t name).map
        (fun id => (without substituteStart name, id))

------------------------------------------------------------
-- Steps
------------------------------------------------------------

/- The commit that a name in the end stands for. -/
def peeled (archive : Archive) : Nat → String → Option String
  | 0, _ => none
  | depth + 1, id =>
    match archive.object? id with
    | some (.commit _) => some id
    | some (.tag target) => peeled archive depth target
    | _ => none

/- The commit some first parents before another one. -/
def ancestor? (archive : Archive) : Nat → String → Option String
  | 0, id => peeled archive 9 id
  | n + 1, id =>
    (peeled archive 9 id).bind fun id =>
      (archive.commit? id).bind fun c =>
        c.parents.head?.bind (ancestor? archive n)

/- The parent of a commit with a number. -/
def parent? (archive : Archive) (n : Nat) (id : String) :
    Option String :=
  (peeled archive 9 id).bind fun id =>
    if n == 0 then some id
    else (archive.commit? id).bind fun c => c.parents[n - 1]?

/- The branch that the head was on some switches before. -/
def switched? (site : Site) (t : FileTree) (n : Nat) : Option String :=
  let front := "checkout: moving from "
  let moves := (site.log t headName).filterMap fun line =>
    if line.message.startsWith front then
      some (String.ofList
        ((without front line.message).toList.takeWhile (· != ' ')))
    else none
  if n == 0 then none else moves[n - 1]?

/- The commit that a reference stood for some changes before. -/
def logged? (site : Site) (t : FileTree) (name : String) (n : Nat) :
    Option String :=
  let lines := site.log t name
  match lines[n]? with
  | some line => some line.new
  | none =>
    if n == lines.length then
      match lines.getLast?.map Line.old with
      | some old => if old == noId then none else some old
      | none => none
    else none

/- The names kept that start with some digits. -/
def abbreviated? (archive : Archive) (text : String) : Option String :=
  if 4 ≤ text.length
      && text.toList.all (fun c => (Numeral.digit? 16 c).isSome) then
    let small := text.toLower
    match (archive.objects.map Prod.fst).filter
        (fun id => id.startsWith small) with
    | [id] => some id
    | _ => none
  else
    none

/- The branch that a branch follows. -/
def upstream? (site : Site) (branch : String) : Option String :=
  match site.text? ("branch." ++ branch ++ ".remote"),
      site.text? ("branch." ++ branch ++ ".merge") with
  | some ".", some name => some name
  | some remote, some name =>
    if name.startsWith branchStart then
      some ("refs/remotes/" ++ remote ++ "/" ++ without branchStart name)
    else none
  | _, _ => none

/- What a name without steps behind it stands for. -/
def base? (site : Site) (world : World) (name : String) :
    Option String :=
  let t := world.files
  let name := if name == "@" then headName else name
  if isId name then some name.toLower
  else
    match site.named? t name with
    | some full => site.reference? t full
    | none => abbreviated? world.archive name

/- What stands in braces behind an at sign. -/
def braced? (site : Site) (world : World) (name inner : String) :
    Option String :=
  let t := world.files
  let full := if name.isEmpty || name == "@" then
      (site.headName? t).getD headName
    else (site.named? t name).getD name
  match inner.toList with
  | '-' :: digits =>
    match name.isEmpty, Numeral.natural? 10 digits with
    | true, some n => (site.switched? t n).bind (site.base? world)
    | _, _ => none
  | digits =>
    match Numeral.natural? 10 digits with
    | some n =>
      site.logged? t (if name == headName then headName else full) n
    | none =>
      if ["u", "upstream", "push"].contains inner.toLower then
        (site.upstream? (shortName full)).bind (site.reference? t)
      else none

------------------------------------------------------------
-- Revisions
------------------------------------------------------------

/- A number in front of a text, and what follows it. -/
def count (text : List Char) : Option Nat × List Char :=
  let digits := text.takeWhile Numeral.isDigit
  (Numeral.natural? 10 digits, text.drop digits.length)

/- The steps behind a name. -/
def steps? (world : World) : Nat → String → List Char → Option String
  | 0, _, _ => none
  | _ + 1, id, [] => some id
  | fuel + 1, id, c :: rest =>
    match c, rest with
    | '~', rest =>
      let (n, rest) := count rest
      (ancestor? world.archive (n.getD 1) id).bind
        (steps? world fuel · rest)
    | '^', '\x7b' :: rest =>
      let inner := String.ofList (rest.takeWhile (· != '\x7d'))
      let rest := rest.drop (inner.length + 1)
      if inner == "tree" then
        match (peeled world.archive 9 id).bind world.archive.commit? with
        | some c => if rest.isEmpty then some (treeId c.files) else none
        | none => none
      else if inner == "" || inner == "commit" then
        (peeled world.archive 9 id).bind (steps? world fuel · rest)
      else if inner == "object" then
        steps? world fuel id rest
      else none
    | '^', rest =>
      let (n, rest) := count rest
      (parent? world.archive (n.getD 1) id).bind
        (steps? world fuel · rest)
    | _, _ => none

/- Where the steps behind a name begin. -/
def splitSteps : List Char → List Char × List Char
  | [] => ([], [])
  | c :: rest =>
    if c == '~' || c == '^' then ([], c :: rest)
    else
      let (name, steps) := splitSteps rest
      (c :: name, steps)

/- Cut a name at an at sign with braces. -/
def splitBraces? (name : List Char) :
    Option (String × String) :=
  let rec go (before : List Char) : List Char → Option (String × String)
    | '@' :: '\x7b' :: rest =>
      if rest.getLast? == some '\x7d' then
        some (String.ofList before.reverse, String.ofList rest.dropLast)
      else none
    | c :: rest => go (c :: before) rest
    | [] => none
  go [] name

/- What a revision without a path stands for. -/
def plain? (site : Site) (world : World) (text : String) :
    Option String :=
  let (name, steps) := splitSteps text.toList
  let id? :=
    match splitBraces? name with
    | some (front, inner) => site.braced? world front inner
    | none => site.base? world (String.ofList name)
  id?.bind (steps? world (steps.length + 1) · steps)

/- The files of a commit. -/
def filesOf (world : World) (id : Option String) : Snapshot :=
  match id.bind world.archive.commit? with
  | some c => c.files
  | none => []

/- The files of a commit or of a tree. -/
def filesUnder? (world : World) (id : String) : Option Snapshot :=
  match peeled world.archive 9 id with
  | some id => some (filesOf world (some id))
  | none =>
    match stored? world.archive id with
    | some (.tree files) => some files
    | _ => none

/- A path behind a colon, as a path from the top. -/
def pathBehind (site : Site) (path : List Char) : Path :=
  let p := String.ofList path
  let p := if p.startsWith "./" || p.startsWith "../" then
      Path.normalize (Path.join (Location.toPath site.inner) p)
    else p
  Text.joinWith "/" ((Text.splitAt '/' p).filter (fun name =>
    !name.isEmpty && name != Path.current))

/- The index in the file of a site. -/
def ownIndex (site : Site) (world : World) : Index :=
  (indexIn world site.indexFile).toOption.getD []

/- Where the path of a text begins, behind a colon outside braces. -/
def splitPath? : Nat → List Char → Option (List Char × List Char)
  | _, [] => none
  | depth, c :: rest =>
    if c == ':' && depth == 0 then some ([], rest)
    else
      (splitPath? (if c == '\x7b' then depth + 1
        else if c == '\x7d' then depth - 1
        else depth) rest).map fun (name, path) => (c :: name, path)

/- What is found on a path of a commit, of a tree or of the index. -/
def onPath? (site : Site) (world : World) (name path : List Char) :
    Option Kept :=
  match name with
  | [] =>
    let (stage, path) := match path with
      | '0' :: ':' :: rest => (0, rest)
      | '1' :: ':' :: rest => (1, rest)
      | '2' :: ':' :: rest => (2, rest)
      | '3' :: ':' :: rest => (3, rest)
      | path => (0, path)
    let p := site.pathBehind path
    ((site.ownIndex world).staged? p stage).bind fun e =>
      inside? [(p, e.file)] p
  | name =>
    ((site.plain? world (String.ofList name)).bind
      (filesUnder? world)).bind fun files =>
        inside? files (site.pathBehind path)

/- What a text names, with its digest. -/
def object? (site : Site) (world : World) (text : String) :
    Option (String × Kept) :=
  match splitPath? 0 text.toList with
  | some (name, path) =>
    (site.onPath? world name path).map fun kept =>
      let id := digestOf kept
      (id, if world.archive.substitutes.isEmpty then kept
        else (stored? world.archive id).getD kept)
  | none =>
    (site.plain? world text).bind fun id =>
      (stored? world.archive id).map (id, ·)

/- What a revision stands for. -/
def revision? (site : Site) (world : World) (text : String) :
    Option String :=
  match splitPath? 0 text.toList with
  | some (name, path) => (site.onPath? world name path).map digestOf
  | none => site.plain? world text

/- The commit that a revision stands for. -/
def commitId? (site : Site) (world : World) (text : String) :
    Option String :=
  (site.revision? world text).bind (peeled world.archive 9)

/- The files of a commit, or of a tree, that a revision stands for. -/
def tree? (site : Site) (world : World) (text : String) :
    Option Snapshot :=
  (site.revision? world text).bind (filesUnder? world)

/- The files of the last commit. -/
def headFiles (site : Site) (world : World) : Snapshot :=
  filesOf world (site.head? world.files)

------------------------------------------------------------
-- Ancestors
------------------------------------------------------------

/- A commit with all that came before it, as far as is asked. -/
def ancestors (archive : Archive) :
    Nat → List String → List String → List String
  | 0, seen, _ => seen
  | _ + 1, seen, [] => seen
  | fuel + 1, seen, id :: rest =>
    if seen.contains id then ancestors archive fuel seen rest
    else
      let parents := match archive.commit? id with
        | some c => c.parents
        | none => []
      ancestors archive fuel (id :: seen) (rest ++ parents)

/- All that came before a commit, and the commit itself. -/
def history (world : World) (id : String) : List String :=
  ancestors world.archive (4 * world.archive.objects.length + 4) [] [id]

/- Whether a commit is another one or came before it. -/
def isAncestor (world : World) (old new : String) : Bool :=
  (history world new).contains old

/- The newest commits that came before both of two. -/
def mergeBases (world : World) (a b : String) : List String :=
  let both := (history world a).filter (history world b).contains
  both.filter fun id =>
    !both.any fun other => other != id && isAncestor world id other

end Site

end Versions

end Sandbox

end TreeLint
