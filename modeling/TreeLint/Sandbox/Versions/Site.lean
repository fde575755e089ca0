import TreeLint.Repository.Discovery
import TreeLint.Sandbox.Versions.Settings

/-
  Where a command of version control works.

  Key definitions include:
    * `Versions.Call`
    * `Versions.Site`
    * `Versions.isAdmin`
    * `Versions.setUp`

  A command looks for the administration directory around its
  working directory, unless the environment names one, and
  the settings of the repository then say where the work tree
  is.  A repository may have none.
-/

------------------------------------------------------------
-- Administration Directories
------------------------------------------------------------

namespace TreeLint

namespace Sandbox

namespace Versions

/- The text of a file without the line feeds at its end. -/
def lineIn? (t : FileTree) (loc : Location) : Option String :=
  (t.read? [] loc.toPath).map fun content =>
    String.ofList
      ((RawByte.decode content).toList.reverse.dropWhile
        (fun c => c == '\n' || c == '\r')).reverse

/- The directory that a command of a further work tree shares. -/
def commonOf (t : FileTree) (admin : Location) : Location :=
  match lineIn? t (admin ++ ["commondir"]) with
  | some p => (t.locate admin p).toOption.getD admin
  | none => admin

/- Whether a text is the name of something that is kept. -/
def isId (text : String) : Bool :=
  text.length == 40
    && text.toList.all (fun c => (Numeral.digit? 16 c).isSome)

/- What the name of every reference starts with. -/
def referenceStart : String := "refs/"

/- The reference that the text of a file stands for. -/
def symbolic? (text : String) : Option String :=
  if text.startsWith "ref:" then
    some (String.ofList
      ((text.toList.drop 4).dropWhile Settings.isSpace))
  else
    none

/- Whether a file tells where the head is. -/
def isHead (t : FileTree) (loc : Location) : Bool :=
  match t.node? loc with
  | some (.link target) => target.startsWith referenceStart
  | some (.file content _) =>
    let text := RawByte.decode content
    match symbolic? text with
    | some name => name.startsWith referenceStart
    | none => isId (String.ofList (text.toList.take 40))
  | _ => false

/- Whether a directory is an administration directory. -/
def isAdmin (t : FileTree) (loc : Location) : Bool :=
  let common := commonOf t loc
  isHead t (loc ++ ["HEAD"])
    && (t.directory? common "objects").isSome
    && (t.directory? common "refs").isSome

/- What a file in the place of an administration directory says. -/
def pointed (t : FileTree) (loc : Location) : Attempt Location :=
  let text := (lineIn? t loc).getD ""
  if !text.startsWith "gitdir: " then
    .error (.fatal ("invalid gitfile format: " ++ loc.toPath))
  else
    let p := String.ofList (text.toList.drop 8)
    match t.directory? loc.dropLast p with
    | some admin =>
      if isAdmin t admin then .ok admin
      else .error (.fatal ("not a git repository: " ++ p))
    | none => .error (.fatal ("not a git repository: " ++ p))

/- The administration directory under the customary name. -/
def adminIn? (t : FileTree) (loc : Location) :
    Attempt (Option Location) :=
  match t.resolved? [] (loc ++ [Repository.adminName]).toPath with
  | some (dest, .directory) =>
    .ok (if isAdmin t dest then some dest else none)
  | some (_, .file _ _) =>
    (pointed t (loc ++ [Repository.adminName])).map some
  | _ => .ok none

/- An administration directory that was found, and where. -/
inductive Found where
  /- It belongs to the directory given. -/
  | inTree (admin top : Location)
  /- The search has come upon the directory itself. -/
  | itself (admin : Location)
  | nowhere

/- Search a directory and those above it. -/
def searchUp (t : FileTree) (ceilings : List Location) :
    Nat → Location → Attempt Found
  | 0, _ => .ok .nowhere
  | levels + 1, loc =>
    match adminIn? t loc with
    | .error failure => .error failure
    | .ok (some admin) => .ok (.inTree admin loc)
    | .ok none =>
      if isAdmin t loc then .ok (.itself loc)
      else if ceilings.contains loc.dropLast then .ok .nowhere
      else searchUp t ceilings levels loc.dropLast

------------------------------------------------------------
-- Sites
------------------------------------------------------------

/- What a command is started with. -/
structure Call where
  cwd : Location
  env : List (String × String)
  stdin : List UInt8
  /- How another program is started, with its arguments. -/
  launch : World → Start → Option Ran

/- A repository with the work tree that a command works in. -/
structure Site where
  call : Call
  admin : Location
  common : Location
  /- The top of the work tree, if there is one. -/
  top? : Option Location
  settings : List Setting

namespace Site

/- The top of the work tree; a command that needs it asks before. -/
def top (site : Site) : Location :=
  site.top?.getD []

/- The way from the top to the working directory. -/
def inner (site : Site) : Location :=
  if site.top.isPrefixOf site.call.cwd then
    site.call.cwd.drop site.top.length
  else
    []

/- The value of a variable of the environment. -/
def valueOf? (site : Site) (name : String) : Option String :=
  site.call.env.lookup name

/- The last setting of a name. -/
def setting? (site : Site) (name : String) : Option Setting :=
  Settings.last? site.settings name

/- What the settings say about a question. -/
def flag (site : Site) (name : String) (otherwise : Bool) : Bool :=
  match site.setting? name with
  | none => otherwise
  | some setting => (Settings.boolean? setting.value).getD otherwise

/- The text that a name is set to. -/
def text? (site : Site) (name : String) : Option String :=
  (site.setting? name).bind Setting.value

/- The file of the index. -/
def indexFile (site : Site) : Location :=
  match site.valueOf? "GIT_INDEX_FILE" with
  | some "" => (site.top?).getD site.call.cwd ++ [""]
  | some p =>
    let base := (site.top?).getD site.call.cwd
    if Path.isAbsolute p then
      (Path.segments p).filter (fun s => !Path.isIdle s)
    else
      base ++ (Path.segments p).filter (fun s => !Path.isIdle s)
  | none => site.admin ++ ["index"]

end Site

/- The extensions of repositories that are known. -/
def knownExtensions : List String :=
  [ "noop", "noop-v1", "preciousobjects", "partialclone",
    "worktreeconfig", "objectformat" ]

/- Check whether the format of a repository can be dealt with. -/
def checkFormat (own : List Setting) : Attempt Unit :=
  let version? :=
    match Settings.last? own "core.repositoryformatversion" with
    | none => some 0
    | some setting => setting.value.bind Settings.integer?
  let isExtension (setting : Setting) : Bool :=
    setting.name.startsWith Repository.extensionStart
  let isKnown (setting : Setting) : Bool :=
    (knownExtensions.map (Repository.extensionStart ++ ·)).contains
      setting.name
  let format := Settings.last? own "extensions.objectformat"
  match version? with
  | none =>
    .error (.fatal
      "bad numeric config value for 'core.repositoryformatversion'")
  | some version =>
    if 1 < version then
      .error (.fatal ("Expected git repo version <= 1, found "
        ++ toString version))
    else if version == 1
        && own.any (fun s => isExtension s && !isKnown s) then
      .error (.fatal "unknown repository extensions found")
    else if format.any (fun s => s.value != some "sha1") then
      .error (.fatal "invalid value for 'extensions.objectformat'")
    else
      .ok ()

/- A question that a file of settings answers. -/
def answer (own : List Setting) (name : String) : Attempt Bool :=
  match Settings.last? own name with
  | none => .ok false
  | some setting =>
    match Settings.boolean? setting.value with
    | some b => .ok b
    | none =>
      .error (.fatal ("bad boolean config value for '" ++ name ++ "'"))

/- The directory that a path from the settings leads to. -/
def treeAt (t : FileTree) (base : Location) (p : Path) :
    Attempt Location :=
  match t.directory? base p with
  | some loc => .ok loc
  | none => .error (.fatal ("cannot chdir to '" ++ p ++ "'"))

/-
  The work tree for an administration directory.  `tree?` is
  the directory it was found in.
-/
def workTree (t : FileTree) (call : Call) (admin : Location)
    (own : List Setting) (isExplicit : Bool) (tree? : Option Location) :
    Attempt (Option Location) := do
  let isShared := (t.node? (admin ++ ["commondir"])).isSome
  let bare ← answer own "core.bare"
  let named? ← match Settings.last? own "core.worktree" with
    | none => pure none
    | some ⟨_, none⟩ =>
      .error (.fatal "missing value for 'core.worktree'")
    | some ⟨_, some p⟩ => pure (some p)
  let bare := bare && !isShared
  let named? := if isShared then none else named?
  match call.env.lookup "GIT_WORK_TREE", named? with
  | some p, _ => return some (← treeAt t call.cwd p)
  | none, some p =>
    if bare then return none
    return some (← treeAt t admin p)
  | none, none =>
    if bare then return none
    return if isExplicit then some call.cwd else tree?

/- The site of an administration directory. -/
def siteAt (t : FileTree) (call : Call) (admin : Location)
    (isExplicit : Bool) (tree? : Option Location) : Attempt Site := do
  let common : Location := match call.env.lookup "GIT_COMMON_DIR" with
    | some p => (t.directory? call.cwd p).getD (commonOf t admin)
    | none => commonOf t admin
  let reader : Reader :=
    ⟨t, call.cwd, call.env, some admin.toPath, some common.toPath,
      .unknown⟩
  let own ← reader.settingsIn Reader.depthLimit
    (common ++ ["config"]).toPath
  let hasTrees ← answer own "extensions.worktreeconfig"
  let tree ← if hasTrees then
      reader.settingsIn Reader.depthLimit
        (admin ++ ["config.worktree"]).toPath
    else pure []
  checkFormat own
  let top? ← workTree t call admin (own ++ tree) isExplicit tree?
  let settings ← reader.all
  return ⟨call, admin, common, top?, settings⟩

/- The directories above which nothing is searched. -/
def ceilings (t : FileTree) (call : Call) : List Location :=
  let text := (call.env.lookup "GIT_CEILING_DIRECTORIES").getD ""
  (Text.splitAt ':' text).filterMap fun p =>
    if Path.isAbsolute p then (t.locate [] p).toOption else none

/- The site that variables name or that a search comes upon. -/
def searched (t : FileTree) (call : Call) : Attempt (Option Site) := do
  match call.env.lookup "GIT_DIR" with
  | some p =>
    let admin? ← match t.resolved? call.cwd p with
      | some (loc, .directory) => pure (some loc)
      | some (loc, .file _ _) => (pointed t loc).map some
      | _ => pure none
    match admin? with
    | some admin =>
      if isAdmin t admin then
        return some (← siteAt t call admin true none)
      else
        .error (.fatal ("not a git repository: '" ++ p ++ "'"))
    | none => .error (.fatal ("not a git repository: '" ++ p ++ "'"))
  | none =>
    (Reader.mk t call.cwd call.env none none .unknown).checkFlag
      "GIT_DISCOVERY_ACROSS_FILESYSTEM"
    match ← searchUp t (ceilings t call) (call.cwd.length + 1) call.cwd with
    | .nowhere => return none
    | .itself admin => return some (← siteAt t call admin false none)
    | .inTree admin top =>
      return some (← siteAt t call admin false (some top))

/- Whether the variables for parts of a repository lead to such. -/
def hasParts (t : FileTree) (call : Call) : Bool :=
  let leads (name : String) (parts : List String) : Bool :=
    match call.env.lookup name with
    | none => true
    | some p =>
      match t.directory? call.cwd p with
      | none => false
      | some loc => parts.all (fun part => t.isDirectoryAt (loc ++ [part]))
  let objects := (call.env.lookup "GIT_OBJECT_DIRECTORY").isSome
  leads "GIT_OBJECT_DIRECTORY" []
    && leads "GIT_COMMON_DIR" (if objects then ["refs"]
      else ["objects", "refs"])

/- Check that what is kept is in the directory that is said to hold it. -/
def checkObjects (t : FileTree) (call : Call) (site : Site) :
    Attempt Unit :=
  let own := site.common ++ ["objects"]
  let places := [call.env.lookup "GIT_OBJECT_DIRECTORY"].filterMap id
    ++ Text.splitAt ':'
      ((call.env.lookup "GIT_ALTERNATE_OBJECT_DIRECTORIES").getD "")
  if (call.env.lookup "GIT_OBJECT_DIRECTORY").isNone
      || places.any (fun p => t.directory? call.cwd p == some own) then
    .ok ()
  else
    .error (.fatal "bad object HEAD")

/- The site around a working directory, if there is one. -/
def setUp (t : FileTree) (call : Call) : Attempt (Option Site) := do
  if !hasParts t call then
    match call.env.lookup "GIT_DIR" with
    | some p => .error (.fatal ("not a git repository: '" ++ p ++ "'"))
    | none => return none
  let site? ← searched t call
  match site? with
  | some site => checkObjects t call site
  | none => pure ()
  return site?

/- The settings that hold outside of a repository. -/
def outerSettings (t : FileTree) (call : Call) : Attempt (List Setting) :=
  Reader.all ⟨t, call.cwd, call.env, none, none, .unknown⟩

end Versions

end Sandbox

end TreeLint
