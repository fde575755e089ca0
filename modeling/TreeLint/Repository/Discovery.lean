import TreeLint.Repository.Grafts

/-
  Finding the repository around a path.

  Key definitions include:
    * `Repository.Admin`
    * `Repository.look`
    * `Repository.find?`
    * `Repository.openAt`
    * `Repository.discover`

  Key theorems include:
    * `Repository.discover_of_no_files`

  From a path upwards, each directory is asked whether it has
  an administration directory under the customary name, and
  whether it is one itself.  A file under that name may point
  to the administration directory instead; if it points
  nowhere, the search ends without a repository.  What is
  found is then opened: its settings say whether there is a
  work tree, and where.
-/

------------------------------------------------------------
-- Administration Directories
------------------------------------------------------------

namespace TreeLint

namespace Repository

/- The customary name of the administration directory. -/
def adminName : String := ".git"

/- An administration directory. -/
structure Admin where
  /- The path on which it was reached. -/
  path : Path
  /- The directory that holds the history. -/
  common : Path
  /- The directory with the place where it was found. -/
  above : Path
deriving DecidableEq, Repr

/-
  The text of a small file, without space at its end and up to
  a null character.
-/
def content? (t : FileTree) (cwd : Location) (p : Path) :
    Option String :=
  (t.read? cwd p).map fun bytes =>
    String.ofList (Settings.upToNull
      (Settings.trimEnd (RawByte.decode bytes).toList))

/- Whether a path is meant from the directory of its file on. -/
def isDotted (p : Path) : Bool :=
  p.startsWith "./" || p.startsWith "../"

/- The path of a file in an administration directory. -/
def inside (directory : Path) (name : String) : Path :=
  directory ++ "/" ++ name

/-
  The directory that holds the history.  A further work tree
  shares that of another one and names it in a file; `none`
  says that the file names nothing.
-/
def common? (t : FileTree) (cwd : Location) (directory : Path) :
    Option Path :=
  match content? t cwd (inside directory "commondir") with
  | none => some directory
  | some p =>
    let p := if isDotted p then inside directory p else p
    (t.locate cwd p).toOption.map Location.toPath

/- Whether a directory with a common directory administrates. -/
def isAdministration (t : FileTree) (cwd : Location)
    (directory common : Path) : Bool :=
  t.isFile cwd (inside directory "HEAD")
    && (t.directory? cwd (inside common "objects")).isSome
    && (t.directory? cwd (inside common "refs")).isSome

/- What a file in the place of the directory starts with. -/
def pointerStart : String := "gitdir:"

/- The directory that a file in its place points to. -/
def pointee? (t : FileTree) (cwd : Location) (file : Path) :
    Option Path :=
  match content? t cwd file with
  | none => none
  | some text =>
    let p := String.ofList
      (Settings.trimStart (text.toList.drop pointerStart.length))
    if text.startsWith pointerStart && text != pointerStart then
      (t.locate cwd (Path.join (directoryOf file ++ "/") p)).toOption.map
        Location.toPath
    else
      none

------------------------------------------------------------
-- The Search
------------------------------------------------------------

/- What the search finds at one place. -/
inductive Place where
  | administration (found : Admin)
  /- Something that ends the search without a repository. -/
  | deadEnd
  | nothing

/- Look at a directory that may administrate a repository. -/
def lookInside (t : FileTree) (cwd : Location) (directory above : Path) :
    Place :=
  match common? t cwd directory with
  | none => .deadEnd
  | some common =>
    if isAdministration t cwd directory common then
      .administration ⟨directory, common, above⟩
    else
      .nothing

/- Look for an administration directory at a path. -/
def look (t : FileTree) (cwd : Location) (p : Path) : Place :=
  match t.resolved? cwd p with
  | some (_, .directory) => lookInside t cwd p (directoryOf p)
  | some (_, .file _ _) =>
    if p.endsWith ("/" ++ adminName) then
      match pointee? t cwd p with
      | none => .deadEnd
      | some directory =>
        match lookInside t cwd directory (directoryOf p) with
        | .administration found => .administration found
        | _ => .deadEnd
    else
      .nothing
  | _ => .nothing

/- Look for an administration directory in a directory or at it. -/
def lookAround (t : FileTree) (cwd : Location) (loc : Location) : Place :=
  match look t cwd (inside loc.toPath adminName) with
  | .nothing => look t cwd loc.toPath
  | place => place

/- Search a location and then those above it. -/
def searchUp (t : FileTree) (cwd : Location) :
    Nat → Location → Option Admin
  | 0, _ => none
  | levels + 1, loc =>
    match lookAround t cwd loc with
    | .administration found => some found
    | .deadEnd => none
    | .nothing => searchUp t cwd levels loc.dropLast

/- The administration directory of the repository around a path. -/
def find? (t : FileTree) (cwd : Location) (p : Path) : Option Admin :=
  match t.locate cwd p with
  | .error _ => none
  | .ok loc => searchUp t cwd (max 1 loc.length) loc

------------------------------------------------------------
-- Work Trees
------------------------------------------------------------

/- Why there is no work tree to be found. -/
inductive DiscoveryError where
  | noRepository
  | noWorkTree
deriving DecidableEq, Repr

namespace DiscoveryError

/- The wording of the error. -/
def message : DiscoveryError → String
  | noRepository => "No Git repository found"
  | noWorkTree => "Repository has no working directory"

end DiscoveryError

/- What a directory says about the work tree it is for. -/
inductive Pointer where
  /- It is not for a further work tree. -/
  | nothing
  /- The pointer file of the work tree. -/
  | file (path : Path)
  | unreadable
deriving DecidableEq

/-
  The pointer file of a further work tree, as the directory
  that administrates it names it.  Such a directory shares
  the history of another one.
-/
def pointer (t : FileTree) (cwd : Location) (admin : Admin) : Pointer :=
  let file := inside admin.path "gitdir"
  if admin.common == admin.path || !t.pathExists cwd file then
    .nothing
  else
    match content? t cwd file with
    | none => .unreadable
    | some p =>
      .file (if isDotted p then Path.normalize (inside admin.path p) else p)

/- The extensions of repositories that change nothing here. -/
def knownExtensions : List String :=
  [ "noop", "objectformat", "worktreeconfig", "preciousobjects",
    "relativeworktrees" ]

/- The beginning of the names of extensions. -/
def extensionStart : String := "extensions."

/- Whether the format of a repository can be dealt with. -/
def isReadable (settings : List Setting) : Bool :=
  let version? :=
    match Settings.last? settings "core.repositoryformatversion" with
    | none => some 0
    | some setting => setting.value.bind Settings.integer?
  match version? with
  | none => false
  | some version =>
    version < 1
      || (version == 1
        && settings.all (fun setting =>
          !setting.name.startsWith extensionStart
            || (knownExtensions.map (extensionStart ++ ·)).contains
              setting.name)
        && (Settings.last? settings "extensions.objectformat").all
          (fun setting => setting.value == some "sha1"))

/- Whether a directory is one, or could become one. -/
def isUsable (t : FileTree) (cwd : Location) (p : Path) : Bool :=
  match t.locate cwd p with
  | .ok loc => t.isDirectoryAt loc
  | .error .notFound => true
  | .error _ => false

/- Whether nothing on the way to a path stands in the way. -/
def isReachable (t : FileTree) (cwd : Location) (p : Path) : Bool :=
  match t.locateEntry cwd p with
  | .ok _ => true
  | .error .notFound => true
  | .error _ => false

/-
  Whether nothing stands in the way to the pointer file that a
  directory names, be it for a further work tree or not.
-/
def hasReachablePointer (t : FileTree) (cwd : Location) (admin : Admin) :
    Bool :=
  match content? t cwd (inside admin.path "gitdir") with
  | none => true
  | some "" => true
  | some p =>
    isReachable t cwd
      (if isDotted p then Path.normalize (inside admin.path p) else p)

/-
  Whether a repository can be opened: the format that its
  settings name is known, its lists of grafts are in order,
  and nothing stands in the way to its pointer file.
-/
def canOpen (t : FileTree) (cwd : Location) (admin : Admin)
    (settings : List Setting) : Bool :=
  isReadable settings
    && Grafts.isSound t cwd (inside admin.common "info/grafts")
    && Grafts.isSound t cwd (inside admin.path "shallow")
    && hasReachablePointer t cwd admin

/-
  The top of the work tree of a repository.  A further work
  tree names its own pointer file, a repository may name its
  work tree in its settings, and otherwise the administration
  directory lies in the work tree.  A repository whose
  settings are not understood cannot be opened.
-/
def workTop
    (t : FileTree)
    (session : Session)
    (admin : Admin) : Except DiscoveryError Path :=
  match layers? t session admin.path admin.common with
  | none => .error .noRepository
  | some settings =>
    let bare? :=
      match Settings.last? settings "core.bare" with
      | none => some false
      | some setting => Settings.boolean? setting.value
    let usable (top : Path) : Except DiscoveryError Path :=
      if isUsable t session.cwd top then .ok (Path.normalize top)
      else .error .noRepository
    match canOpen t session.cwd admin settings, bare?,
        pointer t session.cwd admin with
    | false, _, _ => .error .noRepository
    | true, none, _ => .error .noRepository
    | true, some _, .unreadable => .error .noRepository
    | true, some _, .file pointer => usable (directoryOf pointer)
    | true, some true, .nothing => .error .noWorkTree
    | true, some false, .nothing =>
      match (Settings.last? settings "core.worktree").bind
          Setting.value with
      | none => usable admin.above
      | some "" => .error .noRepository
      | some p =>
        match t.locate session.cwd (Path.join (admin.path ++ "/") p) with
        | .ok top => usable top.toPath
        | .error _ => .error .noRepository

/- The top of the work tree of the repository in a directory. -/
def openAt
    (t : FileTree)
    (session : Session)
    (directory : Path) : Except DiscoveryError Path :=
  match t.locate session.cwd directory with
  | .error _ => .error .noRepository
  | .ok loc =>
    match lookAround t session.cwd loc with
    | .administration admin => workTop t session admin
    | _ => .error .noRepository

/- The top of the work tree around a path, links resolved. -/
def discover
    (t : FileTree)
    (session : Session)
    (p : Path) : Except DiscoveryError Path :=
  match find? t session.cwd p with
  | none => .error .noRepository
  | some admin => openAt t session admin.path

/- Where no file can be read, there is no repository. -/
theorem discover_of_no_files
    {t : FileTree}
    {session : Session}
    (p : Path)
    (hNone : ∀ file, t.read? session.cwd file = none) :
    discover t session p = .error .noRepository := by
  have hInside :
      ∀ directory above,
        lookInside t session.cwd directory above = .nothing := by
    intro directory above
    simp [lookInside, common?, content?, isAdministration,
      FileTree.isFile, hNone]
  have hLook : ∀ q, look t session.cwd q = .nothing := by
    intro q
    unfold look
    split
    · exact hInside _ _
    · next loc content executable hResolved =>
      have hRead := hNone q
      simp [FileTree.read?, hResolved] at hRead
    · rfl
  have hSearch :
      ∀ levels loc, searchUp t session.cwd levels loc = none := by
    intro levels
    induction levels with
    | zero => exact fun _ => rfl
    | succ levels ih =>
      intro loc
      simp [searchUp, lookAround, hLook, ih]
  have hFound : find? t session.cwd p = none := by
    unfold find?
    split
    · rfl
    · exact hSearch _ _
  rw [discover, hFound]

end Repository

end TreeLint
