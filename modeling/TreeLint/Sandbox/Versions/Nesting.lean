import TreeLint.Sandbox.Versions.Committing
import TreeLint.Sandbox.Versions.Creating
import TreeLint.Sandbox.Versions.Differences

/-
  Dealing with work trees inside of a work tree.

  Key definitions include:
    * `Nesting.addressFrom`
    * `Nesting.add`
    * `Nesting.update`
    * `Nesting.run`

  A work tree inside is added by telling about it and by
  putting its last commit into the index.  Whoever gets such
  an index takes note of the address and lets the work tree be
  brought up to date: it is cloned if need be, and the commit
  of the index is taken up.
-/

------------------------------------------------------------
-- Options
------------------------------------------------------------

namespace TreeLint

namespace Sandbox

namespace Versions

namespace Nesting

/- What a command understands in front of its words. -/
structure Grammar where
  /- The spellings of options, each with what it means. -/
  flags : List (String × String)
  /- The options that are followed by a value. -/
  valued : List (String × String) := []
  /- The options that may have the value behind an equals sign. -/
  attached : List String := []

/- An option with its value, or with none. -/
abbrev Chosen := List (String × String)

/- A command that was called in the wrong way. -/
def misused : Failure :=
  ⟨1, "usage: git submodule [--quiet] [--cached]"⟩

/- Read options up to the first word. -/
def options (grammar : Grammar) :
    List String → Attempt (Chosen × List String)
  | [] => .ok ([], [])
  | "--" :: rest => .ok ([], rest)
  | word :: rest =>
    match grammar.flags.lookup word, grammar.valued.lookup word, rest with
    | some name, _, rest => do
      let (more, words) ← options grammar rest
      return ((name, "") :: more, words)
    | none, some name, value :: rest =>
      if value.isEmpty then .error misused
      else do
        let (more, words) ← options grammar rest
        return ((name, value) :: more, words)
    | none, some _, [] => .error misused
    | none, none, rest =>
      match grammar.attached.find? (fun name =>
          word.startsWith ("--" ++ name ++ "=")) with
      | some name => do
        let (more, words) ← options grammar rest
        return ((name, without ("--" ++ name ++ "=") word) :: more, words)
      | none =>
        if word.startsWith "-" then .error misused
        else .ok ([], word :: rest)

/- The flags that every command understands. -/
def quietFlags : List (String × String) :=
  [("-q", "quiet"), ("--quiet", "quiet")]

/- The flags for doing something nevertheless. -/
def forceFlags : List (String × String) :=
  [("-f", "force"), ("--force", "force")]

/- The flag for going into the work trees inside of those inside. -/
def deepFlags : List (String × String) :=
  [("--recursive", "recursive")]

/- Whether an option was chosen. -/
def has (chosen : Chosen) (name : String) : Bool :=
  (chosen.lookup name).isSome

/- The last value that was chosen for an option. -/
def value? (chosen : Chosen) (name : String) : Option String :=
  chosen.reverse.lookup name

------------------------------------------------------------
-- Addresses
------------------------------------------------------------

/- Whether an address is one as seen from here. -/
def isRelative (address : String) : Bool :=
  address.startsWith "./" || address.startsWith "../"

/- Whether an address leads to another machine. -/
def isRemote (address : String) : Bool :=
  match Text.splitAt ':' address with
  | front :: _ :: _ => !front.contains '/'
  | _ => false

/- An address without its last step; what joins the next one to it. -/
def chopped (address : String) (isRelative : Bool) :
    Attempt (String × String) :=
  let chars := address.toList.reverse
  match chars.dropWhile (· != '/'), chars.dropWhile (· != ':') with
  | _ :: front, _ => .ok (String.ofList front.reverse, "/")
  | [], _ :: front => .ok (String.ofList front.reverse, ":")
  | [], [] =>
    if isRelative || address == "." then
      .error (.fatal ("cannot strip one component off url '" ++ address
        ++ "'"))
    else .ok (".", "/")

/- Go along an address that starts from another one. -/
def climb (isRelative : Bool) :
    Nat → String → String → String → Attempt String
  | 0, base, sign, way => .ok (base ++ sign ++ way)
  | steps + 1, base, sign, way =>
    if way.startsWith "../" then do
      let (base, next) ← chopped base isRelative
      climb isRelative steps base (if sign == ":" then sign else next)
        (without "../" way)
    else if way.startsWith "./" then
      climb isRelative steps base sign (without "./" way)
    else .ok (base ++ sign ++ way)

/- The address that another one leads to from a base. -/
def addressFrom (base way : String) (up : String) : Attempt String := do
  let chopEnd (text : String) : String :=
    if text.endsWith "/" then
      String.ofList (text.toList.take (text.length - 1))
    else text
  if !isRelative way then return way
  let base := chopEnd base
  let isNear := !isRemote base && !Path.isAbsolute base
  let base := if isNear && !isRelative base then "./" ++ base else base
  let found ← climb isNear way.length base "/" way
  let found := chopEnd found
  let found := if found.startsWith "./" then without "./" found else found
  return if isNear then up ++ found else found

/- The address that the work tree around has. -/
def ownAddress (site : Site) (t : FileTree) : String :=
  let remote := ((site.headName? t).bind fun name =>
    site.text? ("branch." ++ shortName name ++ ".remote")).getD "origin"
  (site.text? ("remote." ++ remote ++ ".url")).getD site.top.toPath

/- The address that is told, as seen from the work tree around. -/
def resolved (site : Site) (t : FileTree) (address : String) :
    Attempt String :=
  addressFrom (ownAddress site t) address ""

------------------------------------------------------------
-- The Work Trees That Are Meant
------------------------------------------------------------

/- The work trees inside that are told about. -/
def known : Job (List Nested) := do
  let desk ← get
  Job.attempt (Nested.listed desk.site desk.world desk.index)

/- Give a setting of the repository a value. -/
def setOwn (name setting value : String) : Job Unit := do
  let file := (← get).site.common ++ ["config"]
  Job.changeFiles fun t => Nested.changedAt t file fun text =>
    Inscribing.write text (Nested.key name setting) value
  Nested.reread

/- The entries for work trees inside that words stand for. -/
def meant (words : List String) : Job (List Entry) := do
  let desk ← get
  let specs ← Staging.specsOf words
  match specs.unmatched? desk.index.paths with
  | some spec =>
    Job.fail 1 ("error: pathspec '" ++ spec.argument
      ++ "' did not match any file(s) known to git")
  | none =>
    let paths := (Differences.Insight.entries desk.index).map Entry.path
    return (paths.eraseDups.filter specs.covers).filterMap desk.index.entry?

/- Those among some entries that one works with, if that is set. -/
def activeOf (words : List String) (entries : List Entry) :
    Job (List Entry) := do
  let desk ← get
  if words.isEmpty && (desk.site.setting? "submodule.active").isSome then
    let known ← known
    return entries.filter fun e =>
      Nested.isActive desk.site desk.files known e.path
  else return entries

/- The name of a path as seen from the working directory. -/
def shownPath (site : Site) (p : Path) : Path :=
  match site.valueOf? Nested.wayVariable with
  | some way => way ++ p
  | none =>
    if site.inner.isEmpty then p else Nested.wayTo site.inner (namesOf p)

/- Whether a location has an administration directory. -/
def isPopulated (t : FileTree) (loc : Location) : Bool :=
  (WorkTree.nestedAdmin? t loc).isSome

/- The commit of an entry for a work tree inside. -/
def commitOf (e : Entry) : String :=
  match e.file with
  | .nested id => id
  | _ => Site.noId

------------------------------------------------------------
-- Taking Over
------------------------------------------------------------

/- Clone a work tree inside, without taking up a commit. -/
def clone (isQuiet : Bool) (name : String) (p : Path) (address : String) :
    Job Int := do
  let desk ← get
  let site := desk.site
  let admin := Nested.adminFor site name
  let tree := site.top ++ namesOf p
  let above := (List.range admin.length).map admin.take
  if above.any (fun loc => (site.common ++ ["modules"]).isPrefixOf loc
      && isAdmin desk.files loc) then
    Job.fatal ("refusing to create/use '" ++ admin.toPath
      ++ "' in another submodule's git dir")
  if (desk.files.node? admin).isNone then
    Job.changeFiles fun t =>
      Site.putDeep t (site.common ++ ["modules"]) .directory
    let ran ← Nested.ranAgain Nested.program site.top
      (Nested.innerVariables site.call.env)
      (["clone", "--no-checkout"] ++ (if isQuiet then ["--quiet"] else [])
        ++ ["--separate-git-dir", admin.toPath, "--", address,
          tree.toPath])
    if ran.code != some 0 then
      Job.fatal ("clone of '" ++ address ++ "' into submodule path '"
        ++ tree.toPath ++ "' failed")
  else
    Job.changeFiles fun t =>
      Site.putDeep (t.erase (admin ++ ["index"])) tree .directory
  Job.changeFiles fun t => Nested.connect t tree admin
  return 0

/- Change what is told about the work tree of a name. -/
def tell (name setting value : String) : Job Unit := do
  let file := Nested.fileIn (← get).site
  Job.changeFiles fun t => Nested.changedAt t file fun text =>
    Inscribing.write text (Nested.key name setting) value

/- Check that what is told can be changed. -/
def checkTelling : Job Unit := do
  let desk ← get
  let isKept := (desk.index.entry? Nested.fileName).isSome
    || (desk.headFiles.file? Nested.fileName).isSome
  if isKept && (desk.files.node? (Nested.fileIn desk.site)).isNone then
    Job.fatal ("please make sure that the " ++ Nested.fileName
      ++ " file is in the working tree")

/- Tell about a work tree inside and put it into the index. -/
def introduce (chosen : Chosen) (name : String) (p : Path)
    (address stated : String) : Job Int := do
  setOwn name "url" address
  let force := if has chosen "force" then ["--force"] else []
  if (← Nested.again (["add", "--no-warn-embedded-repo"] ++ force
      ++ ["--", p])) != 0 then
    Job.fatal ("Failed to add submodule '" ++ p ++ "'")
  tell name "path" p
  tell name "url" stated
  match value? chosen "branch" with
  | some branch => tell name "branch" branch
  | none => pure ()
  if (← Nested.again ["add", "--force", "--", Nested.fileName]) != 0 then
    Job.fatal ("Failed to register submodule '" ++ p ++ "'")
  let desk ← get
  let isSet := (desk.site.setting? "submodule.active").isSome
  if !isSet || !Nested.isActive desk.site desk.files (← known) p then
    setOwn name "active" "true"
  return 0

/- The options for adding a work tree. -/
def addGrammar : Grammar where
  flags := quietFlags ++ forceFlags
    ++ [("--progress", "progress"), ("--dissociate", "dissociate")]
  valued := [ ("-b", "branch"), ("--branch", "branch"),
    ("--reference", "reference"), ("--name", "name"), ("--depth", "depth") ]
  attached := ["reference", "depth"]

/- The place for a new work tree. -/
def placeFor (site : Site) (stated : String) (more : List String) : Path :=
  let p := more.head?.getD (Creating.cloneName stated false)
  if Path.isAbsolute p then
    let names := (Path.meaning p).names
    if site.top.isPrefixOf names then
      WorkTree.pathOf (names.drop site.top.length)
    else p
  else
    WorkTree.pathOf ((Path.meaning (Path.join
      (WorkTree.pathOf site.inner) p)).names.filter (· != Path.current))

/- Check that a work tree can be added at a path. -/
def checkPlace (chosen : Chosen) (p : Path) : Job (Option Int) := do
  let desk ← get
  let site := desk.site
  let isForced := has chosen "force"
  let inTheWay := desk.index.find? fun e =>
    e.path == p || e.path.startsWith (p ++ "/")
  match inTheWay with
  | some e =>
    if !isForced then
      Job.fatal ("'" ++ p ++ "' already exists in the index")
    if (Differences.Insight.entries [e]).isEmpty then
      Job.fatal ("'" ++ p ++ "' already exists in the index and is not a "
        ++ "submodule")
  | none => pure ()
  let tree := site.top ++ namesOf p
  if isPopulated desk.files tree
      && (WorkTree.nestedHead? site desk.files tree).isNone then
    Job.fatal ("'" ++ p ++ "' does not have a commit checked out")
  if !isForced then
    let ran ← Nested.ranAgain Nested.program site.top site.call.env
      ["add", "--dry-run", "--ignore-missing", "--no-warn-embedded-repo", p]
    if ran.code != some 0 then
      return some (ran.code.getD 128)
  return none

/- Take up the first commit of a new work tree. -/
def takeUp (chosen : Chosen) (p : Path) : Job Unit := do
  let tree := (← get).site.top ++ namesOf p
  let branch := match value? chosen "branch" with
    | some branch => ["-B", branch, "origin/" ++ branch]
    | none => []
  if (← Nested.againIn tree (["checkout", "-f", "-q"] ++ branch)) != 0 then
    Job.fatal ("unable to checkout submodule '" ++ p ++ "'")

/- Add a work tree inside. -/
def add (isQuiet : Bool) (args : List String) : Job Int := do
  let (chosen, words) ← Job.attempt (options addGrammar args)
  let isQuiet := isQuiet || has chosen "quiet"
  match words with
  | [] => throw misused
  | stated :: more =>
    if stated.isEmpty then throw misused
    if 1 < more.length then
      throw (.usage "usage: git submodule add [<options>] [--] <repository>")
    checkTelling
    let desk ← get
    let site := desk.site
    let p := placeFor site stated more
    let address ←
      if isRelative stated then do
        if !site.inner.isEmpty then
          Job.fatal ("Relative path can only be used from the toplevel of "
            ++ "the working tree")
        Job.attempt (resolved site desk.files stated)
      else if Path.isAbsolute stated || stated.contains ':' then
        pure stated
      else
        Job.fatal ("repo URL: '" ++ stated
          ++ "' must be absolute or begin with ./|../")
    match ← checkPlace chosen p with
    | some code => return code
    | none => pure ()
    let name := (value? chosen "name").getD p
    match Nested.named? (← known) name with
    | some nested =>
      if nested.path? != some p && !has chosen "force" then
        Job.fatal ("submodule name '" ++ name ++ "' already used for path '"
          ++ nested.path?.getD "" ++ "'")
    | none => pure ()
    if !Nested.isGoodName name then
      Job.fatal ("'" ++ name ++ "' is not a valid submodule name")
    let t ← Job.files
    let tree := site.top ++ namesOf p
    if t.isDirectoryAt tree then
      if isPopulated t tree then
        Job.say ("Adding existing repo at '" ++ p ++ "' to the index")
      else
        Job.fatal ("'" ++ p ++ "' already exists and is not a valid git repo")
    else
      if t.isDirectoryAt (Nested.adminFor site name) then
        if has chosen "force" then
          Job.say ("Reactivating local git directory for submodule '" ++ name
            ++ "'")
        else
          Job.fatal ("If you want to reuse this local git directory instead "
            ++ "of cloning again use the '--force' option.")
      discard <| clone isQuiet name p address
      takeUp chosen p
    introduce chosen name p address stated

------------------------------------------------------------
-- State
------------------------------------------------------------

/- The name by which a commit is known in a work tree. -/
def nameOfCommit (tree : Location) (id : String) : Job String := do
  let site := (← get).site
  let env := ("GIT_DIR", Repository.adminName)
    :: Nested.innerVariables site.call.env
  let mut found := ""
  for way in [[], ["--tags"], ["--contains"], ["--all", "--always"]] do
    if found.isEmpty then
      let desk ← get
      let ran ← Nested.ranAgain Nested.program tree env
        (["describe"] ++ way ++ [id])
      modify fun now => { now with err := desk.err }
      if ran.code == some 0 then
        found := String.ofList ((RawByte.decode ran.out).toList.filter
          (· != '\n'))
  return found

/- Tell the state of the work trees inside. -/
def status (isQuiet isCached : Bool) (args : List String) : Job Int := do
  let (chosen, words) ← Job.attempt (options
    ⟨quietFlags ++ deepFlags ++ [("--cached", "cached")], [], []⟩ args)
  let isQuiet := isQuiet || has chosen "quiet"
  let isCached := isCached || has chosen "cached"
  for e in ← meant words do
    let desk ← get
    let site := desk.site
    let known ← known
    let tree := site.top ++ namesOf e.path
    if (Nested.placed? known e.path).isNone then
      Job.fatal ("no submodule mapping found in .gitmodules for path '"
        ++ e.path ++ "'")
    let say (sign : String) (id : String) : Job Unit := do
      if !isQuiet then
        let name ← if sign == " " || sign == "+" then nameOfCommit tree id
          else pure ""
        Job.say (sign ++ id ++ " " ++ shownPath site e.path
          ++ if name.isEmpty then "" else " (" ++ name ++ ")")
    if e.stage != 0 then say "U" Site.noId
    else if !Nested.isActive site desk.files known e.path
        || !isPopulated desk.files tree then
      say "-" (commitOf e)
    else
      match WorkTree.nestedHead? site desk.files tree with
      | none => Job.fatal ("could not resolve HEAD ref inside the submodule '"
          ++ e.path ++ "'")
      | some id =>
        if id == commitOf e then say " " id
        else say "+" (if isCached then commitOf e else id)
      if has chosen "recursive" then
        let code ← Nested.goOnIn e.path
          (["submodule"] ++ (if isQuiet then ["--quiet"] else [])
            ++ ["status", "--recursive"]
            ++ (if isCached then ["--cached"] else []))
        if code != 0 then
          Job.fatal ("failed to recurse into submodule '" ++ e.path ++ "'")
  return 0

------------------------------------------------------------
-- Taking Note
------------------------------------------------------------

/- Take note of the address of the work tree at a path. -/
def note (isQuiet : Bool) (p : Path) : Job Unit := do
  let desk ← get
  let known ← known
  let nameless : Job Unit :=
    Job.fatal ("No url found for submodule path '"
      ++ shownPath desk.site p ++ "' in .gitmodules")
  match Nested.placed? known p with
  | none => nameless
  | some nested =>
    if !Nested.isActive desk.site desk.files known p then
      setOwn nested.name "active" "true"
    let site := (← get).site
    if (nested.own? site "url").isNone then
      match nested.url? with
      | none => nameless
      | some stated =>
        let address ← Job.attempt (resolved site desk.files stated)
        setOwn nested.name "url" address
        if !isQuiet then
          Job.complain ("Submodule '" ++ nested.name ++ "' (" ++ address
            ++ ") registered for path '" ++ shownPath site p ++ "'")
    match nested.own? site "update", nested.update? with
    | none, some word => setOwn nested.name "update" word
    | _, _ => pure ()

/- Take note of the addresses of work trees inside. -/
def init (isQuiet : Bool) (args : List String) : Job Int := do
  let (chosen, words) ← Job.attempt (options ⟨quietFlags, [], []⟩ args)
  for e in ← activeOf words (← meant words) do
    note (isQuiet || has chosen "quiet") e.path
  return 0

------------------------------------------------------------
-- Bringing Up To Date
------------------------------------------------------------

/- The options for bringing work trees up to date. -/
def updateGrammar : Grammar where
  flags := quietFlags ++ forceFlags ++ deepFlags
    ++ [ ("-v", "verbose"), ("--verbose", "verbose"),
      ("--progress", "progress"), ("-i", "init"), ("--init", "init"),
      ("--require-init", "init"), ("--remote", "remote"),
      ("-N", "no-fetch"), ("--no-fetch", "no-fetch"), ("-r", "rebase"),
      ("--rebase", "rebase"), ("-m", "merge"), ("--merge", "merge"),
      ("--checkout", "checkout"), ("--dissociate", "dissociate"),
      ("--recommend-shallow", "shallow"),
      ("--no-recommend-shallow", "shallow"), ("--single-branch", "single"),
      ("--no-single-branch", "single") ]
  valued := [ ("--reference", "reference"), ("--depth", "depth"),
    ("-j", "jobs"), ("--jobs", "jobs"), ("--filter", "filter") ]
  attached := ["reference", "depth", "jobs", "filter"]

/- How a work tree takes up a commit. -/
inductive Manner where
  | checkout
  | rebase
  | merge
  | nothing
  | command (text : String)
deriving DecidableEq

/- The manner that a word stands for. -/
def Manner.ofWord? (word : String) : Option Manner :=
  match word with
  | "checkout" => some .checkout
  | "rebase" => some .rebase
  | "merge" => some .merge
  | "none" => some .nothing
  | _ =>
    if word.startsWith "!" then some (.command (without "!" word)) else none

/- The manner that is asked for on the command line. -/
def mannerAsked? (chosen : Chosen) : Option Manner :=
  ["checkout", "rebase", "merge"].findSome? fun word =>
    if has chosen word then Manner.ofWord? word else none

/- Whether a commit is reachable from a reference of a work tree. -/
def isReachable (world : World) (site : Site) (id : String) : Bool :=
  let t := world.files
  ((site.references t referenceStart).filterMap (site.reference? t)
    ++ (site.head? t).toList).any fun tip =>
      tip == id || Site.isAncestor world id tip

/- Get a commit into a work tree that does not have it yet. -/
def fetchFor (tree : Location) (p : Path) (id : String) : Job Unit := do
  let hasIt : Job Bool := do
    let desk ← get
    return (WorkTree.nestedSite? desk.site desk.files tree).any
      fun inner => isReachable desk.world inner id
  if !(← hasIt) then
    discard <| Nested.againIn tree ["fetch", "-q"]
  if !(← hasIt) then
    let code ← Nested.againIn tree ["fetch", "-q", "origin", id]
    if code != 0 then
      Job.fatal ("Fetched in submodule path '" ++ p
        ++ "', but it did not contain " ++ id
        ++ ". Direct fetching of that commit failed.")

/- Let a work tree take up a commit. -/
def takeCommit (chosen : Chosen) (isForced : Bool) (manner : Manner)
    (p : Path) (id : String) : Job Int := do
  let site := (← get).site
  let tree := site.top ++ namesOf p
  let refused (verb : String) : Job Int :=
    Job.fatal ("Unable to " ++ verb ++ " '" ++ id ++ "' in submodule path '"
      ++ p ++ "'")
  let quiet := if has chosen "quiet" then ["--quiet"] else []
  match manner with
  | .nothing => return 0
  | .checkout =>
    let force := if isForced then ["-f"] else []
    let code ← Nested.againIn tree (["checkout", "-q"] ++ force ++ [id])
    if code != 0 then
      Job.complain ("fatal: Unable to checkout '" ++ id
        ++ "' in submodule path '" ++ p ++ "'")
    return code
  | .rebase =>
    if (← Nested.againIn tree (["rebase"] ++ quiet ++ [id])) != 0 then
      refused "rebase"
    else return 0
  | .merge =>
    if (← Nested.againIn tree (["merge"] ++ quiet ++ [id])) != 0 then
      refused "merge"
    else return 0
  | .command text =>
    let ran ← Nested.ranAgain "sh" tree
      (("GIT_DIR", Repository.adminName)
        :: Nested.innerVariables site.call.env)
      ["-c", text ++ " \"$@\"", text, id]
    Job.print ran.out
    if ran.code != some 0 then refused "execute" else return 0

/- The commit that the remote branch of a work tree is at. -/
def remoteCommit (chosen : Chosen) (nested : Nested) (p : Path) :
    Job String := do
  let desk ← get
  let site := desk.site
  let tree := site.top ++ namesOf p
  let branch := ((nested.own? site "branch").orElse fun _ =>
    nested.branch?).getD headName
  let branch ← if branch == "." then
      match site.headName? desk.files with
      | some name => pure (shortName name)
      | none => Job.fatal ("Submodule (" ++ nested.name
          ++ ") branch configured to inherit branch from superproject, but "
          ++ "the superproject is not on any branch")
    else pure branch
  let inner? := WorkTree.nestedSite? site desk.files tree
  let remote := (inner?.bind fun inner =>
    (inner.headName? desk.files).bind fun name =>
      inner.text? ("branch." ++ shortName name ++ ".remote")).getD "origin"
  if !has chosen "no-fetch" then
    if (← Nested.againIn tree ["fetch", "-q"]) != 0 then
      Job.fatal ("Unable to fetch in submodule path '" ++ p ++ "'")
  let t ← Job.files
  let full := "refs/remotes/" ++ remote ++ "/" ++ branch
  match inner?.bind fun inner => inner.reference? t full with
  | some id => return id
  | none =>
    Job.fatal ("Unable to find " ++ full ++ " revision in submodule path '"
      ++ p ++ "'")

/- A work tree inside that is to be brought up to date. -/
structure Due where
  nested : Nested
  path : Path
  id : String
  isNew : Bool

/- The work tree of an entry, if it is to be brought up to date. -/
def due? (chosen : Chosen) (e : Entry) : Job (Option Due) := do
  let desk ← get
  let site := desk.site
  let known ← known
  match Nested.placed? known e.path with
  | none => return none
  | some nested =>
    let usual := ((nested.own? site "update").orElse fun _ =>
      nested.update?).bind Manner.ofWord?
    let isSkipped := (mannerAsked? chosen).isNone && usual == some .nothing
    if e.stage != 0 || isSkipped
        || !Nested.isActive site desk.files known e.path then
      return none
    let address? ← match nested.own? site "url", nested.url? with
      | some address, _ => pure (some address)
      | none, some stated =>
        pure (some (← Job.attempt (resolved site desk.files stated)))
      | none, none => pure none
    match address? with
    | none =>
      Job.fatal ("cannot clone submodule '" ++ nested.name
        ++ "' without a URL")
    | some address =>
      let tree := site.top ++ namesOf e.path
      let isNew :=
        (desk.files.node? (tree ++ [Repository.adminName])).isNone
      if isNew then
        let isCloned ← tryCatch
          (do return (← clone true nested.name e.path address) == 0)
          (fun failure => do
            Job.complain failure.text
            return false)
        if !isCloned then
          Job.fail 1 ("Failed to clone '" ++ e.path
            ++ "' a second time, aborting")
      return some ⟨nested, e.path, commitOf e, isNew⟩

/- Bring a work tree up to date. -/
def bring (chosen : Chosen) (due : Due) : Job Int := do
  let desk ← get
  let site := desk.site
  let tree := site.top ++ namesOf due.path
  let own? := due.nested.own? site "update"
  let manner ← match mannerAsked? chosen, own? with
    | some manner, _ => pure manner
    | none, some word =>
      match Manner.ofWord? word with
      | some manner => pure manner
      | none => Job.fatal ("Invalid update mode '" ++ word
          ++ "' configured for submodule path '" ++ due.path ++ "'")
    | none, none =>
      pure ((due.nested.update?.bind Manner.ofWord?).getD .checkout)
  let manner := match manner, due.isNew with
    | .command text, _ => .command text
    | _, true => .checkout
    | manner, false => manner
  let current? := if due.isNew then none
    else WorkTree.nestedHead? site desk.files tree
  if !due.isNew && current?.isNone then
    Job.fatal ("Unable to find current revision in submodule path '"
      ++ due.path ++ "'")
  let id ← if has chosen "remote" then
      remoteCommit chosen due.nested due.path
    else pure due.id
  if current? != some id || has chosen "force" then
    if !has chosen "no-fetch" then fetchFor tree due.path id
    let code ← takeCommit chosen (due.isNew || has chosen "force") manner
      due.path id
    if code != 0 then return code
    if !has chosen "quiet" then
      Job.say ("Submodule path '" ++ shownPath site due.path
        ++ "': checked out '" ++ id ++ "'")
  if has chosen "recursive" then
    let words := ["force", "remote", "no-fetch", "rebase", "merge",
      "checkout", "init", "quiet"].filter (has chosen)
    Nested.goOnIn due.path (["submodule", "update", "--recursive"]
      ++ words.map ("--" ++ ·))
  else return 0

/- Bring work trees inside up to date. -/
def update (isQuiet : Bool) (args : List String) : Job Int := do
  let (chosen, words) ← Job.attempt (options updateGrammar args)
  let chosen := if isQuiet then ("quiet", "") :: chosen else chosen
  let entries ← meant words
  if has chosen "init" then
    for e in ← activeOf words entries do
      note (has chosen "quiet") e.path
  let dues ← entries.filterMapM (due? chosen)
  let mut code : Int := 0
  for due in dues do
    if code != 128 then
      let next ← tryCatch (bring chosen due) fun failure => do
        Job.complain failure.text
        return failure.code
      if next != 0 then code := next
  return code

------------------------------------------------------------
-- Giving Up
------------------------------------------------------------

/- Give the work tree at a path up. -/
def giveUp (chosen : Chosen) (p : Path) : Job Unit := do
  let site := (← get).site
  let known ← known
  match Nested.placed? known p with
  | none => pure ()
  | some nested =>
    let tree := site.top ++ namesOf p
    if (← Job.files).isDirectoryAt tree then
      let adopted ← Job.attempt (Nested.adopt site known p (← Job.files))
      Job.changeFiles fun _ => adopted
      if !has chosen "force" then
        if (← Nested.again ["rm", "-qn", p]) != 0 then
          Job.fatal ("Submodule work tree '" ++ p ++ "' contains local "
            ++ "modifications; use '-f' to discard them")
      Job.changeFiles fun t => t.erase tree
      if !has chosen "quiet" then
        Job.say ("Cleared directory '" ++ shownPath site p ++ "'")
      let settings := Nested.adminFor site nested.name ++ ["config"]
      Job.changeFiles fun t =>
        if (t.node? settings).isSome then
          Nested.changedAt t settings fun text =>
            Inscribing.erase text ⟨"core", none, "worktree"⟩
        else t
    Job.changeFiles fun t =>
      if (t.node? tree).isNone then Site.putDeep t tree .directory else t
    let front := Nested.settingStart ++ nested.name
    if site.settings.any (fun s => s.name.startsWith (front ++ ".")) then
      Job.changeFiles fun t =>
        Nested.changedAt t (site.common ++ ["config"]) fun text =>
          Inscribing.eraseSection text front
      Nested.reread
      if !has chosen "quiet" then
        Job.say ("Submodule '" ++ nested.name
          ++ "' unregistered for path '" ++ shownPath site p ++ "'")

/- Give work trees inside up. -/
def deinit (isQuiet : Bool) (args : List String) : Job Int := do
  let (chosen, words) ← Job.attempt (options
    ⟨quietFlags ++ forceFlags ++ [("--all", "all")], [], []⟩ args)
  let chosen := if isQuiet then ("quiet", "") :: chosen else chosen
  if has chosen "all" && !words.isEmpty then
    throw (.usage "error: pathspec and --all are incompatible")
  if !has chosen "all" && words.isEmpty then
    Job.fatal ("Use '--all' if you really want to deinitialize all "
      ++ "submodules")
  for e in ← meant words do
    giveUp chosen e.path
  return 0

------------------------------------------------------------
-- Commands In Work Trees Inside
------------------------------------------------------------

/- Whether a word is more than the name of a program. -/
def isScript (word : String) : Bool :=
  word.toList.any "|&;<>()$\x60\\\"' \t\n*?[#~=%".toList.contains

/- Start a command in each work tree inside. -/
def foreach (isQuiet : Bool) (args : List String) : Job Int := do
  let (chosen, words) ← Job.attempt (options
    ⟨quietFlags ++ deepFlags, [], []⟩ args)
  let isQuiet := isQuiet || has chosen "quiet"
  for e in ← meant [] do
    let desk ← get
    let site := desk.site
    let tree := site.top ++ namesOf e.path
    let shown := shownPath site e.path
    match Nested.placed? (← known) e.path with
    | none =>
      Job.fatal ("No url found for submodule path '" ++ shown
        ++ "' in .gitmodules")
    | some nested =>
      if isPopulated desk.files tree then
        if !isQuiet then Job.say ("Entering '" ++ shown ++ "'")
        let env := ("GIT_DIR", Repository.adminName)
          :: Nested.innerVariables site.call.env
        let refused : Job Unit :=
          Job.fatal ("run_command returned non-zero status for " ++ shown
            ++ "\n.")
        match words with
        | [] => pure ()
        | [script] =>
          let told := [ ("name", nested.name), ("sm_path", e.path),
            ("displaypath", shown), ("sha1", commitOf e),
            ("toplevel", site.top.toPath) ]
          let ran ← Nested.ranAgain "sh" tree
            (told ++ env.filter (fun (name, _) => (told.lookup name).isNone))
            ["-c", "path=" ++ Filter.shellQuoted e.path ++ "; " ++ script]
          Job.print ran.out
          if ran.code != some 0 then refused
        | first :: more =>
          let ran ← if isScript first then
              Nested.ranAgain "sh" tree env
                ("-c" :: (first ++ " \"$@\"") :: first :: more)
            else Nested.ranAgain first tree env more
          Job.print ran.out
          if ran.code != some 0 then refused
        if has chosen "recursive" then
          let code ← Nested.goOnIn e.path
            (["submodule"] ++ (if isQuiet then ["--quiet"] else [])
              ++ ["foreach", "--recursive"] ++ words)
          if code != 0 then refused
  return 0

------------------------------------------------------------
-- Changing Addresses And Branches
------------------------------------------------------------

/- Let a work tree inside have the address that is told. -/
def align (isQuiet isDeep : Bool) (p : Path) : Job Unit := do
  let desk ← get
  let site := desk.site
  let known ← known
  match Nested.placed? known p with
  | none => pure ()
  | some nested =>
    if Nested.isActive site desk.files known p then
      let stated := nested.url?.getD ""
      let address ← Job.attempt (resolved site desk.files stated)
      let up := String.join
        (List.replicate (namesOf p).length (Path.parent ++ "/"))
      let inner ← Job.attempt
        (addressFrom (ownAddress site desk.files) stated up)
      if !isQuiet then
        Job.say ("Synchronizing submodule url for '" ++ shownPath site p
          ++ "'")
      setOwn nested.name "url" address
      let tree := site.top ++ namesOf p
      match WorkTree.nestedSite? site desk.files tree with
      | none => pure ()
      | some innerSite =>
        let remote := ((innerSite.headName? desk.files).bind fun name =>
          innerSite.text? ("branch." ++ shortName name ++ ".remote")).getD
          "origin"
        Job.changeFiles fun t =>
          Nested.changedAt t (innerSite.common ++ ["config"]) fun text =>
            Inscribing.write text ⟨"remote", some remote, "url"⟩ inner
        if isDeep then
          if (← Nested.goOnIn p ["submodule", "sync", "--recursive"])
              != 0 then
            Job.fatal ("failed to recurse into submodule '" ++ p ++ "'")

/- Let work trees inside have the addresses that are told. -/
def sync (isQuiet : Bool) (args : List String) : Job Int := do
  let (chosen, words) ← Job.attempt (options
    ⟨quietFlags ++ deepFlags, [], []⟩ args)
  for e in ← meant words do
    align (isQuiet || has chosen "quiet") (has chosen "recursive") e.path
  return 0

/- The work tree that is told to be at a path, as it must be. -/
def placed (p : Path) : Job Nested := do
  match Nested.placed? (← known) p with
  | some nested => return nested
  | none =>
    Job.fatal ("no submodule mapping found in .gitmodules for path '" ++ p
      ++ "'")

/- Tell another address of a work tree inside. -/
def setAddress (isQuiet : Bool) (args : List String) : Job Int := do
  let (chosen, words) ← Job.attempt (options ⟨quietFlags, [], []⟩ args)
  match words with
  | [p, address] =>
    let nested ← placed p
    checkTelling
    tell nested.name "url" address
    align (isQuiet || has chosen "quiet") false p
    return 0
  | _ =>
    throw (.usage "usage: git submodule set-url [--quiet] <path> <newurl>")

/- Tell another branch of a work tree inside. -/
def setBranch (args : List String) : Job Int := do
  let (chosen, words) ← Job.attempt (options
    ⟨quietFlags ++ [("-d", "default"), ("--default", "default")],
      [("-b", "branch"), ("--branch", "branch")], []⟩ args)
  match value? chosen "branch", has chosen "default" with
  | none, false => Job.fatal "--branch or --default required"
  | some _, true =>
    Job.fatal "options '--branch' and '--default' cannot be used together"
  | branch?, _ =>
    match words with
    | [p] =>
      let nested ← placed p
      checkTelling
      let key := Nested.key nested.name "branch"
      match branch? with
      | some branch =>
        tell nested.name "branch" branch
        return 0
      | none =>
        if nested.branch?.isNone then return 1
        let file := Nested.fileIn (← get).site
        Job.changeFiles fun t => Nested.changedAt t file fun text =>
          Inscribing.erase text key
        return 0
    | _ =>
      throw (.usage "usage: git submodule set-branch [<options>] <path>")

/- Take over the administration directories of work trees inside. -/
def adoptAll (words : List String) : Job Int := do
  for e in ← meant words do
    let adopted ← Job.attempt
      (Nested.adopt (← get).site (← known) e.path (← Job.files))
    Job.changeFiles fun _ => adopted
  return 0

------------------------------------------------------------
-- The Command
------------------------------------------------------------

/- The variable that says whether the user named an address. -/
def originVariable : String := "GIT_PROTOCOL_FROM_USER"

/- Read what stands in front of the name of a part. -/
def front : Bool → Bool → List String → Option (Bool × Bool × List String)
  | isQuiet, isCached, word :: rest =>
    if word == "-q" || word == "--quiet" then front true isCached rest
    else if word == "--cached" then front isQuiet true rest
    else if word == "--" then some (isQuiet, isCached, word :: rest)
    else if word.startsWith "-" then none
    else some (isQuiet, isCached, word :: rest)
  | isQuiet, isCached, [] => some (isQuiet, isCached, ["status"])

/- Deal with work trees inside. -/
def run (args : List String) : Job Int := do
  modify fun desk => { desk with
    site.call.env := (originVariable, "0") :: desk.site.call.env.filter
      (fun (name, _) => name != originVariable) }
  match front false false args with
  | none => throw misused
  | some (isQuiet, isCached, words) =>
    if isCached && words.head?.all fun word =>
        word != "status" && word != "summary" then
      throw misused
    match words with
    | "add" :: rest => add isQuiet rest
    | "status" :: rest => status isQuiet isCached rest
    | "init" :: rest => init isQuiet rest
    | "update" :: rest => update isQuiet rest
    | "deinit" :: rest => deinit isQuiet rest
    | "foreach" :: rest => foreach isQuiet rest
    | "sync" :: rest => sync isQuiet rest
    | "set-url" :: rest => setAddress isQuiet rest
    | "set-branch" :: rest => setBranch rest
    | "absorbgitdirs" :: rest => adoptAll rest
    | "summary" :: _ => return 0
    | _ => throw misused

end Nesting

end Versions

end Sandbox

end TreeLint
