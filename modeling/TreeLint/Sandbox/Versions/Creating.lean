import TreeLint.Sandbox.Versions.Nested
import TreeLint.Sandbox.Versions.Switching

/-
  New repositories.

  Key definitions include:
    * `Creating.layOut`
    * `Creating.init`
    * `Creating.clone`

  A new repository has an administration directory with a head
  on a branch without commits.  A clone has the commits of
  another repository, and its branches under the name of a
  remote one.
-/

------------------------------------------------------------
-- Laying Out Administration Directories
------------------------------------------------------------

namespace TreeLint

namespace Sandbox

namespace Versions

namespace Creating

/- The settings that a new repository starts with. -/
def newSettings (isBare : Bool) : String :=
  "[core]\n\trepositoryformatversion = 0\n\tfilemode = true\n\tbare = "
    ++ (if isBare then "true\n"
      else "false\n\tlogallrefupdates = true\n")

/- The directories of an administration directory. -/
def directories : List Location :=
  [ [], ["branches"], ["hooks"], ["info"], ["objects"],
    ["objects", "info"], ["objects", "pack"], ["refs"],
    ["refs", "heads"], ["refs", "tags"] ]

/- The names of the programs that may be run at certain times. -/
def sampleNames : List String :=
  [ "applypatch-msg", "commit-msg", "fsmonitor-watchman", "post-update",
    "pre-applypatch", "pre-commit", "pre-merge-commit", "pre-push",
    "pre-rebase", "pre-receive", "prepare-commit-msg",
    "push-to-checkout", "sendemail-validate", "update" ]

/- The files of an administration directory. -/
def templates : List (Location × Node) :=
  [ (["description"], textFile
      ("Unnamed repository; edit this file 'description' to name the "
        ++ "repository.\n")),
    (["info", "exclude"], textFile
      ("# git ls-files --others --exclude-from=.git/info/exclude\n"
        ++ "# Lines that start with '#' are comments.\n"
        ++ "# For a project mostly in C, the following would be a good "
        ++ "set of\n# exclude patterns (uncomment them if you want to use "
        ++ "them):\n# *.[oa]\n# *~\n")) ]
    ++ sampleNames.map fun name =>
      (["hooks", name ++ ".sample"],
        .file (RawByte.encode "#!/bin/sh\n") true)

/- The text of a head on a branch. -/
def headText (branch : String) : String :=
  "ref: " ++ branchStart ++ branch ++ "\n"

/- Lay an administration directory out; what is there stays. -/
def layOut (t : FileTree) (admin : Location) (isBare : Bool)
    (branch : String) : FileTree :=
  let fill (t : FileTree) (names : Location) (node : Node) : FileTree :=
    if (t.node? (admin ++ names)).isSome then t
    else t.put (admin ++ names) node
  let t := directories.foldl (fun t names => fill t names .directory) t
  let t := fill t ["HEAD"] (textFile (headText branch))
  let t := fill t ["config"] (textFile (newSettings isBare))
  templates.foldl (fun t (names, node) => fill t names node) t

/- The branch that new repositories start with. -/
def usualBranch : String := "master"

/- The options of the command. -/
def initRules : List String :=
  [ "q|quiet", "bare", "template=", "shared?", "b|initial-branch=",
    "separate-git-dir=", "object-format=", "ref-format=" ]

/- The branch that is asked for. -/
def branchFor (arguments : Arguments) (settings : List Setting) :
    Attempt String :=
  let configured :=
    (Settings.last? settings "init.defaultbranch").bind Setting.value
  let branch := match arguments.value? "initial-branch", configured with
    | some branch, _ => branch
    | none, some branch => if branch.isEmpty then usualBranch else branch
    | none, none => usualBranch
  if isGoodBranch branch then .ok branch
  else .error (.fatal ("invalid initial branch name: '" ++ branch ++ "'"))

/- The directory that a path names, made if need be. -/
def directoryAt (t : FileTree) (cwd : Location) (p : Path) :
    Attempt (FileTree × Location) :=
  match t.directory? cwd p, t.makeDirectory cwd p with
  | some loc, _ => .ok (t, loc)
  | none, .ok made => .ok made
  | none, .error e =>
    .error (.fatal ("cannot mkdir " ++ p ++ ": " ++ reason e))

/- Make a repository. -/
def init (world : World) (call : Call) (args : List String) : Ran :=
  finish world do
    let arguments ← Arguments.ofTexts initRules args
    let settings ← outerSettings world.files call
    let p ← match arguments.all with
      | [] => pure "."
      | [p] => pure p
      | _ => Except.error (Failure.usage "usage: git init [<directory>]")
    let (t, loc) ← if p == "." then pure (world.files, call.cwd)
      else directoryAt world.files call.cwd p
    let apart? := arguments.value? "separate-git-dir"
    let given? := call.env.lookup "GIT_DIR"
    let isBare := arguments.has "bare"
    if isBare && apart?.isSome then
      Except.error (Failure.fatal
        "options '--separate-git-dir' and '--bare' cannot be used together")
    if given?.isNone && (call.env.lookup "GIT_WORK_TREE").isSome then
      Except.error (Failure.fatal
        ("GIT_WORK_TREE (or --work-tree=<directory>) not allowed without "
          ++ "specifying GIT_DIR (or --git-dir=<directory>)"))
    let inside := loc ++ [Repository.adminName]
    let (t, admin) ← match given?, apart? with
      | some p, _ => directoryAt t loc p
      | none, some apart => do
        let (t, admin) ← match t.node? inside, t.directory? call.cwd apart,
            t.entrySite call.cwd apart with
          | some .directory, none, .ok dest => pure (t.move inside dest, dest)
          | _, _, _ => directoryAt t call.cwd apart
        pure ((t.erase inside).put inside
          (textFile ("gitdir: " ++ admin.toPath ++ "\n")), admin)
      | none, none =>
        if isBare then pure (t, loc)
        else
          match t.node? inside with
          | some (.file _ _) => do
            let admin ← pointed t inside
            pure (t, admin)
          | some (.link _) =>
            match t.directory? [] inside.toPath with
            | some admin => pure (t, admin)
            | none => Except.error (Failure.fatal
                ("cannot mkdir " ++ inside.toPath))
          | _ => pure (t, inside)
    let branch ← branchFor arguments settings
    return Ran.silent (world.withFiles (layOut t admin isBare branch)) 0

------------------------------------------------------------
-- Clones
------------------------------------------------------------

/- The options of the command. -/
def cloneRules : List String :=
  [ "q|quiet", "v|verbose", "progress", "reject-shallow", "bare", "mirror",
    "l|local", "no-hardlinks", "s|shared", "recurse-submodules?",
    "recursive?", "j|jobs=", "template=", "reference=", "dissociate",
    "o|origin=", "b|branch=", "u|upload-pack=", "depth=", "single-branch",
    "no-tags", "shallow-submodules", "separate-git-dir=", "c|config=",
    "n|no-checkout", "filter=", "sparse", "4|ipv4", "6|ipv6",
    "also-filter-submodules", "remote-submodules", "server-option=",
    "shallow-since=", "shallow-exclude=", "bundle-uri=" ]

/- How far a way of getting at other repositories is allowed. -/
inductive Permission where
  | always
  | never
  /- Only where the user has named the repository. -/
  | byUser
deriving DecidableEq

/- What the settings allow. -/
def permission (settings : List Setting) : Attempt Permission :=
  let read (name : String) : Option (Attempt Permission) :=
    (Settings.last? settings name).map fun setting =>
      match setting.value.map Text.lowerAscii with
      | some "always" => .ok .always
      | some "never" => .ok .never
      | some "user" => .ok .byUser
      | word? => .error (.fatal ("unknown value for config '" ++ name ++ "': "
          ++ word?.getD ""))
  match read "protocol.file.allow", read "protocol.allow" with
  | some found, _ => found
  | none, some found => found
  | none, none => .ok .byUser

/- Check that repositories on this machine may be got at. -/
def checkTransport (settings : List Setting) (env : List (String × String)) :
    Attempt Unit := do
  let refused : Attempt Unit :=
    .error (.fatal "transport 'file' not allowed")
  match env.lookup "GIT_ALLOW_PROTOCOL" with
  | some words =>
    if (Text.splitAt ':' words).contains "file" then return else refused
  | none =>
    match ← permission settings with
    | .always => return
    | .never => refused
    | .byUser =>
      match env.lookup "GIT_PROTOCOL_FROM_USER" with
      | none => return
      | some word =>
        match Settings.boolean? (some word) with
        | some true => return
        | some false => refused
        | none => .error (.fatal ("bad boolean environment value '" ++ word
            ++ "' for 'GIT_PROTOCOL_FROM_USER'"))

/- The repository that a path names. -/
def repositoryAt? (t : FileTree) (call : Call) (p : Path) : Option Site :=
  let siteIn (loc : Location) : Option Site :=
    match adminIn? t loc with
    | .ok (some admin) =>
      (siteAt t { call with cwd := loc, env := [] } admin false
        (some loc)).toOption
    | _ =>
      if isAdmin t loc then
        (siteAt t { call with cwd := loc, env := [] } loc false
          none).toOption
      else none
  [p ++ "/.git", p, p ++ ".git/.git", p ++ ".git"].findSome? fun p =>
    (t.directory? call.cwd p).bind fun loc =>
      siteIn (if loc.getLast? == some Repository.adminName
        then loc.dropLast else loc)

/- The name of the directory of a clone. -/
def cloneName (source : Path) (isBare : Bool) : String :=
  let names := (Path.meaning source).names
  let names := if names.getLast? == some Repository.adminName
    then names.dropLast else names
  let last := names.getLast?.getD "repository"
  let name := if last.endsWith ".git" then
      String.ofList (last.toList.take (last.length - 4))
    else last
  if isBare then name ++ ".git" else name

/- The settings of a clone. -/
def cloneSettings (isBare isMirror : Bool) (origin source : String)
    (branch? : Option String) : String :=
  newSettings isBare
    ++ "[remote \"" ++ origin ++ "\"]\n\turl = " ++ source ++ "\n"
    ++ (if isMirror then "\tfetch = +refs/*:refs/*\n\tmirror = true\n"
      else if isBare then ""
      else "\tfetch = +refs/heads/*:refs/remotes/" ++ origin ++ "/*\n")
    ++ match branch?, isBare with
      | some branch, false =>
        "[branch \"" ++ branch ++ "\"]\n\tremote = " ++ origin
          ++ "\n\tmerge = " ++ branchStart ++ branch ++ "\n"
      | _, _ => ""

/- The references of a clone of a repository. -/
def cloneReferences (source : Site) (t : FileTree) (isBare : Bool)
    (origin : String) : List (String × String) :=
  let branches := (source.references t branchStart).filterMap fun name =>
    (source.reference? t name).map fun id =>
      (if isBare then name
        else "refs/remotes/" ++ origin ++ "/" ++ without branchStart name,
        id)
  let tags := (source.references t tagStart).filterMap fun name =>
    (source.reference? t name).map (name, ·)
  branches ++ tags

/- Write the head of a clone, and check it out. -/
def settleClone (source : Site) (origin : String) (wanted : Option String)
    (isBare isLeft : Bool) (from' : FileTree) : Job Int := do
  let desk ← get
  let site := desk.site
  let name? := match wanted with
    | some branch => some (branchStart ++ branch)
    | none => source.headName? from'
  let id? := match name? with
    | some name => source.reference? from' name
    | none => source.head? from'
  match name?, id? with
  | some name, some id =>
    Job.changeFiles fun t =>
      let t := site.writeTarget t headName (.other name)
      let t := site.writeTarget t name (.commit id)
      if isBare then t
      else site.writeTarget t ("refs/remotes/" ++ origin ++ "/HEAD")
        (.other ("refs/remotes/" ++ origin ++ "/"
          ++ without branchStart name))
  | none, some id =>
    Job.changeFiles fun t => site.writeTarget t headName (.commit id)
  | some name, none =>
    Job.changeFiles fun t => site.writeTarget t headName (.other name)
  | none, none => pure ()
  match id? with
  | some id =>
    if !isBare && !isLeft then
      discard <| Switching.between true []
        (Site.filesOf desk.world (some id))
      Job.saveIndex
  | none => pure ()
  return 0

/- The name and the value of a setting in one text. -/
def splitSetting (text : String) : String × String :=
  let name := text.toList.takeWhile (· != '=')
  (String.ofList name, match text.toList.drop name.length with
    | [] => "true"
    | _ :: value => String.ofList value)

/- Bring the work trees inside of a clone up to date. -/
def fillClone (isWanted : Bool) : Job Int := do
  if isWanted then
    let site := (← get).site
    let ran ← Nested.ranAgain Nested.program site.top
      (Nested.innerVariables site.call.env)
      ["submodule", "update", "--require-init", "--recursive"]
    Job.print ran.out
    return ran.code.getD 128
  else return 0

/- Make a repository with the commits of another one. -/
def clone (world : World) (call : Call) (args : List String) : Ran :=
  finish world do
    let arguments ← Arguments.ofTexts cloneRules args
    let isMirror := arguments.has "mirror"
    let isBare := isMirror || arguments.has "bare"
    let origin := (arguments.value? "origin").getD "origin"
    match arguments.all with
    | [] =>
      .error (.fatal "You must specify a repository to clone.")
    | source :: rest =>
      let address := source
      let source := if source.startsWith "file://" then
          without "file://" source else source
      let p := rest.head?.getD (cloneName source isBare)
      match repositoryAt? world.files call source with
      | none =>
        .error (.fatal ("repository '" ++ source ++ "' does not exist"))
      | some other =>
        let t := world.files
        let settings ← outerSettings t call
        let isTaken := match t.resolved? call.cwd p with
          | some (loc, .directory) => !t.isEmptyAt loc
          | some _ => true
          | none => false
        if isTaken then
          .error (.fatal ("destination path '" ++ p
            ++ "' already exists and is not an empty directory."))
        else do
          let wanted := arguments.value? "branch"
          match wanted with
          | some branch =>
            if (other.reference? t (branchStart ++ branch)).isNone then
              .error (.fatal ("Remote branch " ++ branch
                ++ " not found in upstream " ++ origin))
          | none => pure ()
          let entries ← (arguments.values "config").mapM fun text =>
            Reader.ofArgument text
          checkTransport (settings ++ entries) call.env
          let (made, loc) ← directoryAt t call.cwd p
          let (made, admin) ← match arguments.value? "separate-git-dir" with
            | some apart => do
              let (made, admin) ← directoryAt made call.cwd apart
              pure (made.put (loc ++ [Repository.adminName])
                (textFile ("gitdir: " ++ admin.toPath ++ "\n")), admin)
            | none =>
              pure (made, if isBare then loc
                else loc ++ [Repository.adminName])
          let branch := ((other.headName? t).map shortName).getD
            usualBranch
          let branch := wanted.getD branch
          let made := layOut made admin isBare branch
          let place := if address != source || Path.isAbsolute source then
              address
            else Path.join call.cwd.toPath source
          let hasHead := (other.reference? t (branchStart ++ branch)).isSome
          let made := made.put (admin ++ ["config"]) (textFile
            (cloneSettings isBare isMirror origin place
              (if hasHead then some branch else none)))
          let inside := (arguments.options.filter fun given =>
            (given.name == "recurse-submodules" || given.name == "recursive")
              && !given.isNegated).map fun given => given.value?.getD "."
          let added := inside.map (fun p => ("submodule.active", p))
            ++ (arguments.values "config").map splitSetting
          let made ← added.foldlM
            (fun made (name, value) => do
              let key ← Inscribing.Key.parse name
              return Nested.changedAt made (admin ++ ["config"]) fun text =>
                Inscribing.append text key value)
            made
          let site ← siteAt made { call with cwd := loc } admin false
            (if isBare then none else some loc)
          let made := (cloneReferences other t isBare origin).foldl
            (fun made (name, id) => site.writeTarget made name (.commit id))
            made
          let desk : Desk := ⟨world.withFiles made, site, [], [], []⟩
          let isLeft := arguments.has "no-checkout"
            || arguments.hasNo "checkout"
          return desk.carryOut do
            let code ← settleClone other origin wanted isBare isLeft t
            if code != 0 then return code
            fillClone (!inside.isEmpty && !isLeft && !isBare)

end Creating

end Versions

end Sandbox

end TreeLint
