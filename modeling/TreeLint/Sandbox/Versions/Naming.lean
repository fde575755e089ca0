import TreeLint.Sandbox.Versions.Committing
import TreeLint.Sandbox.Versions.Arguments
import TreeLint.Sandbox.Versions.Desk
import TreeLint.Sandbox.Versions.Inscribing

/-
  Commands about branches, tags and other references.

  Key definitions include:
    * `Naming.branch`
    * `Naming.tag`
    * `Naming.updateReference`
    * `Naming.symbolicReference`

  Names are given to commits, changed and taken away.  The
  branch that a work tree is on is protected, and so is a
  branch with commits that are found nowhere else.
-/

------------------------------------------------------------
-- Who Uses A Branch
------------------------------------------------------------

namespace TreeLint

namespace Sandbox

namespace Versions

namespace Naming

/- The administration directories of all work trees. -/
def admins (site : Site) (t : FileTree) : List Location :=
  let further := (t.names (site.common ++ ["worktrees"])).map fun name =>
    site.common ++ ["worktrees", name]
  site.common :: further.filter t.isDirectoryAt

/- Whether a work tree is on a branch. -/
def isUsed (site : Site) (t : FileTree) (name : String) : Bool :=
  (admins site t).any fun admin =>
    { site with admin }.headName? t == some name

/- Whether a work tree other than this one is on a branch. -/
def isUsedElsewhere (site : Site) (t : FileTree) (name : String) : Bool :=
  (admins site t).any fun admin =>
    admin != site.admin && { site with admin }.headName? t == some name

/- Change the settings of the repository. -/
def changeSettings (change : String → String) : Job Unit := do
  let file := (← get).site.common ++ ["config"]
  Job.changeFiles fun t =>
    match t.node? file with
    | some (.file content executable) =>
      t.put file
        (.file (RawByte.encode (change (RawByte.decode content)))
          executable)
    | _ => t

/- Let a branch follow another one. -/
def follow (branch full : String) : Job Unit := do
  let (remote, name) :=
    if full.startsWith "refs/remotes/" then
      match Text.splitAt '/' (without "refs/remotes/" full) with
      | remote :: rest => (remote, branchStart ++ Text.joinWith "/" rest)
      | [] => (".", full)
    else (".", full)
  let write (key value : String) : Job Unit :=
    changeSettings fun text =>
      Inscribing.write text ⟨"branch", some branch, key⟩ value
  write "remote" remote
  write "merge" name

------------------------------------------------------------
-- Branches
------------------------------------------------------------

/- The options of the command. -/
def branchRules : List String :=
  [ "v|verbose", "q|quiet", "t|track?", "u|set-upstream-to=",
    "unset-upstream", "color?", "r|remotes", "contains?", "no-contains?",
    "abbrev?", "a|all", "d|delete", "D", "m|move", "M", "omit-empty",
    "c|copy", "C", "l|list", "show-current", "create-reflog",
    "edit-description", "f|force", "merged?", "no-merged?", "column?",
    "sort=", "points-at=", "i|ignore-case", "recurse-submodules",
    "format=" ]

/- Print the names of branches. -/
def listBranches (arguments : Arguments) (patterns : List String) :
    Job Int := do
  let desk ← get
  let site := desk.site
  let t := desk.files
  let own := site.references t branchStart
  let remote := site.references t "refs/remotes/"
  let names :=
    if arguments.has "all" then own ++ remote
    else if arguments.has "remotes" then remote
    else own
  let fits (name : String) : Bool :=
    patterns.isEmpty || patterns.any fun pattern =>
      Wildcard.fits ⟨false, false⟩ pattern (shortName name)
  let head? := site.headName? t
  if head?.isNone && patterns.isEmpty && !arguments.has "remotes" then
    match site.head? t with
    | some id =>
      Job.say ("* (HEAD detached at " ++ String.ofList (id.toList.take 7)
        ++ ")")
    | none => pure ()
  for name in names.filter fits do
    let mark := if head? == some name then "* " else "  "
    let shown := if name.startsWith "refs/remotes/" then
        if arguments.has "all" then without referenceStart name
        else without "refs/remotes/" name
      else shortName name
    if (arguments.value? "format").isSome then Job.say shown
    else Job.say (mark ++ shown)
  return 0

/- Make a branch. -/
def makeBranch (arguments : Arguments) (name start : String) :
    Job Int := do
  let desk ← get
  let site := desk.site
  let t := desk.files
  if !isGoodBranch name then
    Job.fatal ("'" ++ name ++ "' is not a valid branch name")
  let full := branchStart ++ name
  let isForced := arguments.has "force"
  if (site.reference? t full).isSome then
    if !isForced then
      Job.fatal ("a branch named '" ++ name ++ "' already exists")
    if isUsed site t full then
      Job.fatal ("cannot force update the branch '" ++ name
        ++ "' used by worktree at '" ++ site.top.toPath ++ "'")
  match site.commitId? desk.world start with
  | none => Job.fatal ("not a valid object name: '" ++ start ++ "'")
  | some id =>
    if !site.canWrite t full then
      Job.fatal ("cannot lock ref '" ++ full ++ "': unable to create it")
    Job.changeFiles fun t =>
      site.setReference t full id ("branch: Created from " ++ start)
    match site.named? t start with
    | some origin =>
      let isRemote := origin.startsWith "refs/remotes/"
      let isTracked := arguments.has "track"
        || (isRemote && !arguments.hasNo "track"
          && site.flag "branch.autosetupmerge" true)
      if isTracked then
        follow name origin
    | none => pure ()
    return 0

/- Take branches away. -/
def dropBranches (arguments : Arguments) (names : List String) :
    Job Int := do
  let isForced := arguments.hasAny ["D", "force"]
  let front := if arguments.has "remotes" then "refs/remotes/"
    else branchStart
  let mut code : Int := 0
  for word in names do
    let desk ← get
    let site := desk.site
    let t := desk.files
    let name := if word == "-" then (site.switched? t 1).getD word else word
    let full := front ++ name
    match site.reference? t full with
    | none =>
      Job.complain ("error: branch '" ++ name ++ "' not found.")
      code := 1
    | some id =>
      let reference :=
        match (site.upstream? name).bind (site.reference? t) with
        | some other => some other
        | none => site.head? t
      let isMerged := match reference with
        | some head => Site.isAncestor desk.world id head
        | none => false
      if isUsed site t full then
        Job.complain ("error: cannot delete branch '" ++ name
          ++ "' used by worktree at '" ++ site.top.toPath ++ "'")
        code := 1
      else if !isForced && !arguments.has "remotes" && !isMerged then
        Job.complain ("error: the branch '" ++ name
          ++ "' is not fully merged")
        code := 1
      else
        Job.changeFiles fun t => site.dropReference t full
        changeSettings fun text =>
          Inscribing.eraseSection text ("branch." ++ name)
  return code

/- Give a branch another name, or copy it. -/
def renameBranch (arguments : Arguments) (old new : String) :
    Job Int := do
  let desk ← get
  let site := desk.site
  let t := desk.files
  let isCopy := arguments.hasAny ["copy", "C"]
  let isForced := arguments.hasAny ["M", "C", "force"]
  let source := branchStart ++ old
  let dest := branchStart ++ new
  if !isGoodBranch new then
    Job.fatal ("'" ++ new ++ "' is not a valid branch name")
  let isCurrent := site.headName? t == some source
  match site.reference? t source with
  | none =>
    if isCopy || !isCurrent then
      Job.fatal ("no branch named '" ++ old ++ "'")
    Job.changeFiles fun t => site.writeTarget t headName (.other dest)
    return 0
  | some id =>
    if source == dest then return 0
    if (site.reference? t dest).isSome then
      if !isForced then
        Job.fatal ("a branch named '" ++ new ++ "' already exists")
      if isUsed site t dest then
        Job.fatal ("cannot force update the branch '" ++ new
          ++ "' used by worktree at '" ++ site.top.toPath ++ "'")
    let moved := if isCopy then t else site.dropReference t source
    if !site.canWrite moved dest then
      Job.fatal "branch rename failed"
    Job.changeFiles fun t =>
      let log := t.node? (site.logFile source)
      let t := if isCopy then t else site.dropReference t source
      let t := site.writeTarget t dest (.commit id)
      let t := match log with
        | some node => Site.putDeep t (site.logFile dest) node
        | none => t
      if isCurrent && !isCopy then
        let t := site.writeTarget t headName (.other dest)
        site.note t headName (some id) id
          ("Branch: renamed " ++ source ++ " to " ++ dest)
      else t
    return 0

/- List, make, take away or rename branches. -/
def branch (args : List String) : Job Int := do
  let arguments ← Job.attempt (Arguments.ofTexts branchRules args)
  let words := arguments.all
  let desk ← get
  let site := desk.site
  let current? := (site.headName? desk.files).map shortName
  if arguments.has "show-current" then
    match current? with
    | some name => Job.say name
    | none => pure ()
    return 0
  else if arguments.hasAny ["delete", "D"] then
    if words.isEmpty then Job.fatal "branch name required"
    dropBranches arguments words
  else if arguments.hasAny ["move", "M", "copy", "C"] then
    match words, current? with
    | [new], some old => renameBranch arguments old new
    | [_], none =>
      Job.fatal "cannot rename the current branch while not on any"
    | [old, new], _ => renameBranch arguments old new
    | [], _ => Job.fatal "branch name required"
    | _, _ => Job.fatal "too many arguments for a rename operation"
  else if (arguments.value? "set-upstream-to").isSome then
    let other := (arguments.value? "set-upstream-to").getD ""
    let name? := match words.head? with
      | some name => some name
      | none => current?
    match name?, site.named? desk.files other with
    | some name, some full =>
      if (site.reference? desk.files (branchStart ++ name)).isNone then
        Job.fatal ("branch '" ++ name ++ "' does not exist")
      follow name full
      return 0
    | _, _ =>
      Job.fatal ("the requested upstream branch '" ++ other
        ++ "' does not exist")
  else if arguments.has "unset-upstream" then
    let name? := match words.head? with
      | some name => some name
      | none => current?
    match name?.filter (fun name => (site.upstream? name).isSome) with
    | some name =>
      changeSettings fun text =>
        Inscribing.erase
          (Inscribing.erase text ⟨"branch", some name, "remote"⟩)
          ⟨"branch", some name, "merge"⟩
      return 0
    | none => Job.fatal "Branch has no upstream information"
  else
    let isList := arguments.hasAny
      ["list", "remotes", "all", "contains", "no-contains", "merged",
        "no-merged"] || (arguments.value? "points-at").isSome
    match words, isList with
    | [], _ => listBranches arguments []
    | patterns, true => listBranches arguments patterns
    | [name], false =>
      makeBranch arguments name (current?.getD headName)
    | [name, start], false => makeBranch arguments name start
    | _, false =>
      throw (.usage "usage: git branch [<options>] [<branch>]")

------------------------------------------------------------
-- Tags
------------------------------------------------------------

/- The options of the command. -/
def tagRules : List String :=
  [ "l|list", "n?", "d|delete", "v|verify", "a|annotate", "m|message=",
    "F|file=", "e|edit", "s|sign", "cleanup=", "u|local-user=", "f|force",
    "create-reflog", "column?", "contains?", "no-contains?", "merged?",
    "no-merged?", "omit-empty", "sort=", "points-at=", "format=", "color?",
    "i|ignore-case", "trailer=" ]

/- Make a tag. -/
def makeTag (arguments : Arguments) (name target : String) : Job Int := do
  let desk ← get
  let site := desk.site
  let t := desk.files
  let full := tagStart ++ name
  let isAnnotated := arguments.hasAny ["annotate", "edit"]
    || !(arguments.values "message").isEmpty
    || (arguments.value? "file").isSome
  if arguments.has "sign" || (arguments.value? "local-user").isSome
      || site.flag "tag.gpgsign" false then
    Job.fail 128 "error: unable to sign the tag"
  match site.revision? desk.world target with
  | none =>
    Job.fatal ("Failed to resolve '" ++ target ++ "' as a valid ref.")
  | some id =>
    if !isGoodName full || name.startsWith "-" then
      Job.fatal ("'" ++ name ++ "' is not a valid tag name.")
    if (site.reference? t full).isSome && !arguments.has "force" then
      Job.fatal ("tag '" ++ name ++ "' already exists")
    let id ← if isAnnotated then do
        Job.attempt (Committing.checkPerson site "COMMITTER" "committer")
        let texts := arguments.values "message"
        let given ← Committing.givenMessage? arguments
        let message ← match given with
          | some message => pure message
          | none => Committing.edited ""
        let message := Committing.tidy
          (if given.isNone then .strip else .whitespace) message
        if given.isNone && message.isEmpty && texts.isEmpty then
          Job.fatal "no tag message?"
        let desk ← get
        let tagId := objectId "tag" (RawByte.encode
          (toString desk.world.archive.unused))
        let archive := desk.world.archive
        set { desk with
          world := desk.world.withArchive
            { archive with unused := archive.unused + 1 } }
        Job.keep tagId (.tag id)
        pure tagId
      else pure id
    if !site.canWrite t full then
      Job.fatal ("cannot lock ref '" ++ full ++ "': unable to create it")
    Job.changeFiles fun t => site.writeTarget t full (.commit id)
    return 0

/- List, make or take away tags. -/
def tag (args : List String) : Job Int := do
  let arguments ← Job.attempt (Arguments.ofTexts tagRules args)
  let words := arguments.all
  let desk ← get
  let site := desk.site
  if arguments.has "delete" then
    let mut code : Int := 0
    for name in words do
      let t ← Job.files
      if (site.reference? t (tagStart ++ name)).isSome then
        Job.changeFiles fun t => site.dropReference t (tagStart ++ name)
      else
        Job.complain ("error: tag '" ++ name ++ "' not found.")
        code := 1
    return code
  else if arguments.has "verify" then
    Job.fail 1 "error: cannot verify a non-tag object"
  else if words.isEmpty
      || arguments.hasAny ["list", "n", "contains", "no-contains",
        "merged", "no-merged"]
      || (arguments.value? "points-at").isSome then
    let fits (name : String) : Bool :=
      words.isEmpty || words.any fun pattern =>
        Wildcard.fits ⟨false, false⟩ pattern (shortName name)
    for name in (site.references desk.files tagStart).filter fits do
      Job.say (shortName name)
    return 0
  else
    match words with
    | [name] => makeTag arguments name headName
    | [name, target] => makeTag arguments name target
    | _ => Job.fatal "too many arguments"

------------------------------------------------------------
-- Other References
------------------------------------------------------------

/- Let a reference stand for something, or take it away. -/
def updateReference (args : List String) : Job Int := do
  let arguments ← Job.attempt (Arguments.ofTexts
    ["m=", "d", "no-deref", "z", "stdin", "create-reflog"] args)
  let desk ← get
  let site := desk.site
  let t := desk.files
  let checkOld (name : String) (old? : Option String) : Job Unit :=
    match old? with
    | none => pure ()
    | some old =>
      let wanted := if old.isEmpty || old == Site.noId then none
        else site.revision? desk.world old
      if site.reference? t name == wanted then pure ()
      else Job.fatal ("cannot lock ref '" ++ name ++ "'")
  match arguments.has "d", arguments.all with
  | true, name :: rest =>
    checkOld name rest.head?
    Job.changeFiles fun t =>
      site.dropReference t (site.lastName t 5 name)
    return 0
  | false, name :: new :: rest =>
    checkOld name rest.head?
    match site.revision? desk.world new with
    | none => Job.fatal (new ++ ": not a valid SHA1")
    | some id =>
      if id == Site.noId then
        Job.changeFiles fun t => site.dropReference t name
        return 0
      if !isGoodName name || !(name.startsWith referenceStart
          || name.toList.all (fun c => c.isUpper || c == '_')) then
        Job.fatal ("update_ref failed for ref '" ++ name ++ "'")
      if !site.canWrite t name then
        Job.fatal ("cannot lock ref '" ++ name ++ "'")
      Job.changeFiles fun t =>
        if arguments.has "no-deref" then
          site.writeTarget t name (.commit id)
        else
          site.setReference t name id
            ((arguments.value? "m").getD "")
      return 0
  | _, _ => throw (.usage "usage: git update-ref [<options>]")

/- Read or write a reference to another reference. -/
def symbolicReference (args : List String) : Job Int := do
  let arguments ← Job.attempt (Arguments.ofTexts
    ["q|quiet", "d|delete", "short", "recurse", "m="] args)
  let desk ← get
  let site := desk.site
  let t := desk.files
  match arguments.has "delete", arguments.all with
  | true, [name] =>
    match site.target? t name with
    | some (.other _) =>
      if name == headName then
        Job.fatal "deleting 'HEAD' is not allowed"
      Job.changeFiles fun t => t.erase (site.referenceFile name)
      return 0
    | _ => Job.fatal ("Cannot delete " ++ name ++ ", not a symbolic ref")
  | false, [name] =>
    match site.target? t name with
    | some (.other other) =>
      Job.say (if arguments.has "short" then shortName other else other)
      return 0
    | _ =>
      if arguments.has "quiet" then return 1
      Job.fatal ("ref " ++ name ++ " is not a symbolic ref")
  | false, [name, other] =>
    if name == headName && !other.startsWith referenceStart then
      Job.fatal "Refusing to point HEAD outside of refs/"
    if !isGoodName other then
      Job.fatal ("Refusing to set '" ++ name ++ "' to invalid ref '"
        ++ other ++ "'")
    Job.changeFiles fun t => site.writeTarget t name (.other other)
    return 0
  | _, _ => throw (.usage "usage: git symbolic-ref [<options>]")

end Naming

end Versions

end Sandbox

end TreeLint
