import TreeLint.Sandbox.Versions.Arguments
import TreeLint.Sandbox.Versions.Desk
import TreeLint.Sandbox.Versions.Inscribing
import TreeLint.Sandbox.Versions.Pathspec

/-
  Work trees inside of a work tree.

  Key definitions include:
    * `Nested`
    * `Nested.listed`
    * `Nested.isActive`
    * `Nested.adopt`
    * `Nested.again`

  A file of a work tree tells which other work trees belong
  inside of it: the name, the path and the address of each.
  The administration directory of such a work tree may be kept
  inside the one of the work tree around it.
-/

------------------------------------------------------------
-- What Is Told
------------------------------------------------------------

namespace TreeLint

namespace Sandbox

namespace Versions

/- A work tree inside, as it is told about. -/
structure Nested where
  name : String
  path? : Option Path
  url? : Option String
  branch? : Option String
  /- How it is brought up to date. -/
  update? : Option String
  /- Which changes in it do not count. -/
  ignore? : Option String
deriving DecidableEq, Repr

namespace Nested

/- The file that tells about work trees inside. -/
def fileName : String := ".gitmodules"

/- What the settings of work trees inside start with. -/
def settingStart : String := "submodule."

/- The location of the file. -/
def fileIn (site : Site) : Location :=
  site.top ++ [fileName]

/- The name of a setting of a work tree inside. -/
def key (name setting : String) : Inscribing.Key :=
  ⟨"submodule", some name, setting⟩

/- Whether a name does not lead out of where it belongs. -/
def isGoodName (name : String) : Bool :=
  name != "" && !(Text.pieces (fun c => c == '/' || c == '\\')
    name.toList).contains ['.', '.']

/- The name and the rest of the name of a setting. -/
def split? (name : String) : Option (String × String) :=
  if name.startsWith settingStart then
    match Text.splitAt '.' (without settingStart name) with
    | first :: second :: more =>
      let words := first :: second :: more
      some (Text.joinWith "." words.dropLast, words.getLast?.getD "")
    | _ => none
  else none

/- The words for changes that do not count. -/
def ignorances : List String := ["untracked", "dirty", "all", "none"]

/- The words for how a work tree is brought up to date. -/
def manners : List String := ["none", "checkout", "rebase", "merge"]

/- Whether a word looks like an option. -/
def isLikeOption (word : String) : Bool :=
  word.startsWith "-"

/- What a setting tells, on top of what is known. -/
def learn (nested : Nested) (setting value : String) : Nested :=
  match setting with
  | "path" =>
    if isLikeOption value then nested else { nested with path? := some value }
  | "url" =>
    if isLikeOption value then nested else { nested with url? := some value }
  | "branch" => { nested with branch? := some value }
  | "update" => { nested with update? := some value }
  | "ignore" =>
    if ignorances.contains value then { nested with ignore? := some value }
    else nested
  | _ => nested

/- Whether a setting is told in a way that is understood. -/
def isGood (setting : String) (value? : Option String) : Bool :=
  match setting, value? with
  | "path", none => false
  | "url", none => false
  | "branch", none => false
  | "ignore", none => false
  | "update", value? => value?.any manners.contains
  | "shallow", value? => (Settings.boolean? value?).isSome
  | "fetchrecursesubmodules", value? =>
    value? == some "on-demand" || (Settings.boolean? value?).isSome
  | _, _ => true

/- Take one more setting into account. -/
def take (known : List Nested) (setting : Setting) :
    Attempt (List Nested) :=
  match split? setting.name with
  | none => .ok known
  | some (name, word) =>
    if !isGoodName name then .ok known
    else if !isGood word setting.value then
      .error (.fatal ("invalid value for '" ++ setting.name ++ "'"))
    else
      let told (nested : Nested) : Nested :=
        nested.learn word (setting.value.getD "")
      if known.any (fun nested => nested.name == name) then
        .ok (known.map fun nested =>
          if nested.name == name then told nested else nested)
      else .ok (known ++ [told ⟨name, none, none, none, none, none⟩])

/-
  The text that tells about work trees inside.  Where the file
  is gone, the one of the index or of the last commit counts.
-/
def text? (site : Site) (world : World) (index : Index) :
    Option (List UInt8) :=
  let kept (file? : Option Tracked) : Option (List UInt8) :=
    match file? with
    | some (.file content _) => some content
    | _ => none
  if (index.entry? fileName).any (fun e => e.stage != 0) then none
  else if (world.files.node? (fileIn site)).isSome then
    world.files.read? [] (fileIn site).toPath
  else
    match index.entry? fileName with
    | some e => kept (some e.file)
    | none => kept ((site.headFiles world).file? fileName)

/- The work trees inside that are told about. -/
def listed (site : Site) (world : World) (index : Index) :
    Attempt (List Nested) :=
  match text? site world index with
  | none => .ok []
  | some content =>
    match Settings.parse? (RawByte.decode content) with
    | none =>
      .error (.fatal ("bad config line 1 in file " ++ fileName))
    | some settings => settings.foldlM take []

/- The work tree that is told to be at a path. -/
def placed? (known : List Nested) (p : Path) : Option Nested :=
  known.reverse.find? (fun nested => nested.path? == some p)

/- The work tree of a name. -/
def named? (known : List Nested) (name : String) : Option Nested :=
  known.find? (fun nested => nested.name == name)

/- The value that the repository itself has for a setting. -/
def own? (nested : Nested) (site : Site) (setting : String) :
    Option String :=
  site.text? (key nested.name setting).full

------------------------------------------------------------
-- Active Work Trees
------------------------------------------------------------

/- Whether one works with the work tree at a path. -/
def isActive (site : Site) (t : FileTree) (known : List Nested) (p : Path) :
    Bool :=
  match placed? known p with
  | none => false
  | some nested =>
    match site.setting? (key nested.name "active").full with
    | some setting => (Settings.boolean? setting.value).getD false
    | none =>
      let wanted := site.settings.filter fun setting =>
        setting.name == "submodule.active"
      if wanted.isEmpty then (nested.own? site "url").isSome
      else
        match Pathspec.parse { site with call.cwd := site.top } t
            (wanted.filterMap Setting.value) with
        | .ok specs => specs.covers p
        | .error _ => false

------------------------------------------------------------
-- Administration Directories
------------------------------------------------------------

/- The place for the administration directory of a name. -/
def adminFor (site : Site) (name : String) : Location :=
  site.common ++ ["modules"] ++ namesOf name

/- The path that leads from one location to another. -/
def wayTo (base dest : Location) : Path :=
  match base, dest with
  | a :: base, b :: dest =>
    if a == b then wayTo base dest
    else
      Text.joinWith "/"
        (List.replicate (base.length + 1) Path.parent ++ b :: dest)
  | base, [] =>
    if base.isEmpty then Path.current
    else Text.joinWith "/" (List.replicate base.length Path.parent)
  | [], dest => Text.joinWith "/" dest

/- Let settings in a file be changed, which need not be there. -/
def changedAt (t : FileTree) (file : Location)
    (change : String → String) : FileTree :=
  let text := match t.node? file with
    | some (.file content _) => RawByte.decode content
    | _ => ""
  Site.putDeep t file (textFile (change text))

/- Let a work tree and an administration directory know each other. -/
def connect (t : FileTree) (tree admin : Location) : FileTree :=
  let t := t.put (tree ++ [Repository.adminName])
    (textFile ("gitdir: " ++ wayTo tree admin ++ "\n"))
  changedAt t (admin ++ ["config"]) fun text =>
    Inscribing.write text ⟨"core", none, "worktree"⟩ (wayTo admin tree)

/-
  Take the administration directory of a work tree inside over
  into the one of the work tree around it.
-/
def adopt (site : Site) (known : List Nested) (p : Path) (t : FileTree) :
    Attempt FileTree :=
  let tree := site.top ++ namesOf p
  let inside := tree ++ [Repository.adminName]
  let nameless : Attempt FileTree :=
    .error (.fatal ("could not lookup name for submodule '" ++ p ++ "'"))
  match t.node? inside with
  | some .directory =>
    if !isAdmin t inside then .ok t
    else
      match placed? known p with
      | none => nameless
      | some nested =>
        let admin := adminFor site nested.name
        if t.isDirectoryAt (inside ++ ["worktrees"]) then
          .error (.fatal ("relocate_gitdir for submodule '" ++ p
            ++ "' with more than one worktree not supported"))
        else if (t.node? admin).isSome then
          .error (.fatal ("renaming '" ++ inside.toPath ++ "' to '"
            ++ admin.toPath ++ "' failed"))
        else
          let t := Site.putDeep t admin .directory
          .ok (connect ((t.erase admin).move inside admin) tree admin)
  | some (.file _ _) =>
    match pointed t inside with
    | .ok _ => .ok t
    | .error failure =>
      if ((lineIn? t inside).getD "").startsWith "gitdir: " then
        match placed? known p with
        | none => nameless
        | some nested =>
          .ok (connect t tree (adminFor site nested.name))
      else .error failure
  | _ => .ok t

------------------------------------------------------------
-- Changing What Is Told
------------------------------------------------------------

/- Whether what is told has been changed since it was last added. -/
def isUnsettled (desk : Desk) : Bool :=
  match desk.index.merged? fileName,
      WorkTree.nodeAt? desk.site desk.files fileName with
  | some e, some (.file _ _) =>
    WorkTree.now? desk.site desk.files desk.lens e != some e.file
  | _, _ => false

/- Change what is told, and take it over into the index. -/
def retell (change : String → String) : Job Unit := do
  let desk ← get
  Job.changeFiles fun t => changedAt t (fileIn desk.site) change
  let desk ← get
  match WorkTree.entryFor? desk.site desk.files desk.lens
      (desk.index.merged? fileName) fileName with
  | some e => Job.changeIndex fun index => index.put e
  | none => Job.fatal ("staging updated " ++ fileName ++ " failed")

/- Tell nothing more about the work tree at a path. -/
def forget (known : List Nested) (p : Path) : Job Unit := do
  let desk ← get
  match placed? known p with
  | some nested =>
    if (desk.files.node? (fileIn desk.site)).isSome then
      retell fun text =>
        Inscribing.eraseSection text (settingStart ++ nested.name)
  | none => pure ()

/- Tell that the work tree at a path is at another one. -/
def relocate (known : List Nested) (source dest : Path) : Job Unit := do
  let desk ← get
  match placed? known source with
  | some nested =>
    if (desk.files.node? (fileIn desk.site)).isSome then
      retell fun text => Inscribing.write text (key nested.name "path") dest
  | none => pure ()

------------------------------------------------------------
-- Starting Version Control Again
------------------------------------------------------------

/- The variable that holds the way to a work tree that one is inside of. -/
def wayVariable : String := "GIT_INTERNAL_SUPER_PREFIX"

/- The variables with which a command in a work tree inside starts. -/
def innerVariables (env : List (String × String)) :
    List (String × String) :=
  env.filter fun (name, _) =>
    !WorkTree.ownVariables.contains name
      && name != wayVariable

/- What a command that was started again leaves behind. -/
def ranAgain (program : String) (cwd : Location)
    (env : List (String × String)) (args : List String) : Job Ran := do
  let desk ← get
  let start : Start := ⟨program, args, env, cwd, [], false⟩
  match desk.site.call.launch desk.world start with
  | none => Job.fatal ("cannot run " ++ program)
  | some ran =>
    set { desk with world := ran.world, err := desk.err ++ ran.err }
    return ran

/- The program of version control. -/
def program : String := "/usr/bin/git"

/- Read the settings and the index of the work tree around again. -/
def reread : Job Unit := do
  let desk ← get
  let site ← Job.attempt (siteAt desk.files desk.site.call desk.site.admin
    (desk.site.valueOf? "GIT_DIR").isSome desk.site.top?)
  let index ← Job.attempt (Desk.indexOf desk.world site)
  set { desk with site, index }

/- Start a command again in the work tree around. -/
def again (args : List String) : Job Int := do
  let site := (← get).site
  let ran ← ranAgain program site.top site.call.env args
  Job.print ran.out
  reread
  return ran.code.getD 128

/- Go on in a work tree inside, which is at some path. -/
def goOnIn (p : Path) (args : List String) : Job Int := do
  let site := (← get).site
  let way := (site.valueOf? wayVariable).getD "" ++ p ++ "/"
  let ran ← ranAgain program (site.top ++ namesOf p)
    ([("GIT_DIR", Repository.adminName), (wayVariable, way)]
      ++ innerVariables site.call.env) args
  Job.print ran.out
  return ran.code.getD 128

/- Start a command again in a work tree inside. -/
def againIn (tree : Location) (args : List String) : Job Int := do
  let site := (← get).site
  let ran ← ranAgain program tree
    (("GIT_DIR", Repository.adminName) :: innerVariables site.call.env) args
  Job.print ran.out
  return ran.code.getD 128

end Nested

end Versions

end Sandbox

end TreeLint
