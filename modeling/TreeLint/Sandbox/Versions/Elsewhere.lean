import TreeLint.Sandbox.Versions.Combining
import TreeLint.Sandbox.Versions.Creating

/-
  Commands about other work trees and other repositories.

  Key definitions include:
    * `Elsewhere.addTree`
    * `Elsewhere.trees`
    * `Elsewhere.remotes`
    * `Elsewhere.fetch`
    * `Elsewhere.push`

  A repository may have several work trees, each with a head
  and an index of its own.  Commits are fetched from other
  repositories and pushed to them.
-/

------------------------------------------------------------
-- Further Work Trees
------------------------------------------------------------

namespace TreeLint

namespace Sandbox

namespace Versions

namespace Elsewhere

/- The options for a further work tree. -/
def addTreeRules : List String :=
  [ "f|force", "d|detach", "b=", "B=", "checkout", "lock", "reason=",
    "q|quiet", "track", "guess-remote", "orphan", "relative-paths" ]

/- A name for an administration directory that is not taken. -/
def freeName (t : FileTree) (above : Location) (name : String) :
    Nat → String
  | 0 => name
  | tries + 1 =>
    if (t.node? (above ++ [name])).isSome then
      let numbered := (List.range (tries + 1)).find? fun n =>
        (t.node? (above ++ [name ++ toString (n + 1)])).isNone
      name ++ toString ((numbered.getD tries) + 1)
    else name

/- Make a further work tree. -/
def addTree (args : List String) : Job Int := do
  let arguments ← Job.attempt (Arguments.ofTexts addTreeRules args)
  let desk ← get
  let site := desk.site
  let t := desk.files
  match arguments.all with
  | [] => throw (.usage "usage: git worktree add [<options>] <path>")
  | p :: rest =>
    let name := ((Path.meaning p).names.getLast?).getD "tree"
    let isTaken := match t.resolved? site.call.cwd p with
      | some (loc, .directory) => !t.isEmptyAt loc
      | some _ => true
      | none => false
    if isTaken then
      Job.fatal ("'" ++ p ++ "' already exists")
    let word? := rest.head?
    let start := word?.getD headName
    let new? := match arguments.value? "b", arguments.value? "B" with
      | some name, _ => some (name, false)
      | none, some name => some (name, true)
      | none, none => none
    let goal? := Navigating.goal? desk start
    let isUnborn := (site.head? t).isNone && word?.isNone
    let branch? ← match new?, word?, arguments.has "detach" with
      | some (new, mayExist), _, _ =>
        if !isGoodBranch new then
          Job.fatal ("'" ++ new ++ "' is not a valid branch name")
        if (site.reference? t (branchStart ++ new)).isSome && !mayExist then
          Job.fatal ("a branch named '" ++ new ++ "' already exists")
        pure (some (branchStart ++ new))
      | none, none, false => pure (some (branchStart ++ name))
      | none, some _, false => pure (goal?.bind Navigating.Goal.branch?)
      | none, _, true => pure none
    let id? := match new?, word?, branch? with
      | none, none, some full =>
        match site.reference? t full with
        | some id => some id
        | none => goal?.map Navigating.Goal.id
      | _, _, _ => goal?.map Navigating.Goal.id
    if id?.isNone && !isUnborn then
      Job.fatal ("invalid reference: " ++ start)
    match branch? with
    | some full =>
      if Naming.isUsed site t full && !arguments.has "force" then
        Job.fatal ("'" ++ shortName full ++ "' is already used by worktree")
    | none => pure ()
    let (made, loc) ← Job.attempt (Creating.directoryAt t site.call.cwd p)
    let above := site.common ++ ["worktrees"]
    let adminName := freeName t above name 99
    let admin := above ++ [adminName]
    let head := match branch?, id? with
      | some full, _ => "ref: " ++ full ++ "\n"
      | none, some id => id ++ "\n"
      | none, none => ""
    let files : List (Location × String) :=
      [ (admin ++ ["HEAD"], head),
        (admin ++ ["commondir"], "../..\n"),
        (admin ++ ["gitdir"],
          loc.toPath ++ "/" ++ Repository.adminName ++ "\n"),
        (loc ++ [Repository.adminName],
          "gitdir: " ++ admin.toPath ++ "\n") ]
    let made := files.foldl
      (fun t (loc, text) => Site.putDeep t loc (textFile text)) made
    let made := match branch?, id? with
      | some full, some id => site.writeTarget made full (.commit id)
      | _, _ => made
    Job.changeFiles fun _ => made
    let inner ← Job.attempt
      (siteAt made { site.call with cwd := loc } admin false (some loc))
    let desk ← get
    set { desk with site := inner, index := [] }
    if !arguments.hasNo "checkout" then
      discard <| Switching.between true []
        (Site.filesOf desk.world id?)
      Job.saveIndex
    return 0

/- Remove a further work tree. -/
def removeTree (args : List String) : Job Int := do
  let arguments ← Job.attempt (Arguments.ofTexts ["f|force"] args)
  let desk ← get
  let t := desk.files
  match arguments.all with
  | [p] =>
    let found := (t.directory? desk.site.call.cwd p).bind fun loc =>
      (WorkTree.nestedSite? desk.site t loc).map (loc, ·)
    match found with
    | none => Job.fatal ("'" ++ p ++ "' is not a working tree")
    | some (loc, inner) =>
      if inner.admin == inner.common then
        Job.fatal ("'" ++ p ++ "' is a main working tree")
      if !arguments.has "force"
          && (Differences.isDirtyTree desk.world 4 inner true).toOption
            != some false then
        Job.fatal ("'" ++ p ++ "' contains modified or untracked files, "
          ++ "use --force to delete it")
      Job.changeFiles fun t =>
        Site.pruneAbove ((t.erase loc).erase inner.admin) inner.common
          ["worktrees"]
      return 0
  | _ => throw (.usage "usage: git worktree remove [<options>] <worktree>")

/- Forget work trees that are gone. -/
def pruneTrees : Job Int := do
  let desk ← get
  let above := desk.site.common ++ ["worktrees"]
  Job.changeFiles fun t =>
    let t := (t.names above).foldl
      (fun t name =>
        let isThere := match lineIn? t (above ++ [name, "gitdir"]) with
          | some p => t.pathExists [] p
          | none => false
        if isThere then t else t.erase (above ++ [name]))
      t
    Site.pruneAbove t desk.site.common ["worktrees"]
  return 0

/- Deal with further work trees. -/
def trees (args : List String) : Job Int := do
  match args with
  | "add" :: rest => addTree rest
  | "remove" :: rest => removeTree rest
  | "prune" :: _ => pruneTrees
  | "list" :: _ =>
    let site := (← get).site
    Job.say (site.top.toPath)
    return 0
  | "lock" :: _ => return 0
  | "unlock" :: _ => return 0
  | "repair" :: _ => return 0
  | _ => throw (.usage "usage: git worktree <command>")

------------------------------------------------------------
-- Remotes
------------------------------------------------------------

/- The names of the remotes. -/
def remoteNames (site : Site) : List String :=
  (site.settings.filterMap fun setting =>
    if setting.name.startsWith "remote." && setting.name.endsWith ".url" then
      some (String.ofList
        ((setting.name.toList.drop 7).reverse.drop 4).reverse)
    else none).eraseDups

/- The address of a remote, or of a repository by itself. -/
def addressOf (site : Site) (name : String) : String :=
  let address := (site.text? ("remote." ++ name ++ ".url")).getD name
  if address.startsWith "file://" then without "file://" address
  else address

/- Deal with remotes. -/
def remotes (args : List String) : Job Int := do
  let site := (← get).site
  let names := remoteNames site
  let words := args.filter (fun a => !a.startsWith "-")
  match words with
  | [] =>
    for name in names do
      Job.say name
    return 0
  | ["add", name, url] =>
    if names.contains name then
      Job.fail 3 ("error: remote " ++ name ++ " already exists.")
    Naming.changeSettings fun text =>
      let text := Inscribing.append text ⟨"remote", some name, "url"⟩ url
      Inscribing.append text ⟨"remote", some name, "fetch"⟩
        ("+refs/heads/*:refs/remotes/" ++ name ++ "/*")
    return 0
  | [action, name] =>
    if action == "remove" || action == "rm" then
      if !names.contains name then
        Job.fail 2 ("error: No such remote: '" ++ name ++ "'")
      Naming.changeSettings fun text =>
        Inscribing.eraseSection text ("remote." ++ name)
      let t ← Job.files
      for full in site.references t ("refs/remotes/" ++ name ++ "/") do
        Job.changeFiles fun t => site.dropReference t full
      return 0
    else if action == "get-url" then
      if !names.contains name then
        Job.fail 2 ("error: No such remote '" ++ name ++ "'")
      Job.say ((site.text? ("remote." ++ name ++ ".url")).getD "")
      return 0
    else return 0
  | ["set-url", name, url] =>
    if !names.contains name then
      Job.fail 2 ("error: No such remote '" ++ name ++ "'")
    Naming.changeSettings fun text =>
      Inscribing.write text ⟨"remote", some name, "url"⟩ url
    return 0
  | _ => return 0

/- The remote that is meant where none is named. -/
def usualRemote (desk : Desk) : String :=
  let site := desk.site
  let own := (site.headName? desk.files).bind fun name =>
    site.text? ("branch." ++ shortName name ++ ".remote")
  own.getD (match remoteNames site with
    | [name] => name
    | _ => "origin")

/- The options of the commands. -/
def fetchRules : List String :=
  [ "v|verbose", "q|quiet", "all", "a|append", "atomic", "f|force",
    "m|multiple", "t|tags", "n", "j|jobs=", "prefetch", "p|prune",
    "P|prune-tags", "recurse-submodules?", "dry-run", "write-fetch-head",
    "k|keep", "u|update-head-ok", "progress", "depth=", "unshallow",
    "refetch", "no-tags", "set-upstream", "4|ipv4", "6|ipv6", "no-rebase",
    "r|rebase?", "stat", "log?", "squash", "commit", "edit", "ff",
    "ff-only", "verify", "allow-unrelated-histories", "autostash",
    "s|strategy=", "X|strategy-option=", "signoff" ]

/- Fetch branches and tags of another repository. -/
def fetch (args : List String) : Job Int := do
  let arguments ← Job.attempt (Arguments.ofTexts fetchRules args)
  let desk ← get
  let site := desk.site
  let t := desk.files
  let name := arguments.all.head?.getD (usualRemote desk)
  Job.attempt (Creating.checkTransport site.settings site.call.env)
  match Creating.repositoryAt? t { site.call with
      cwd := site.top?.getD site.admin } (addressOf site name) with
  | none =>
    Job.fatal ("'" ++ name ++ "' does not appear to be a git repository")
  | some other =>
    let found := if (remoteNames site).contains name then
        Creating.cloneReferences other t false name
      else []
    let heads := match arguments.all.drop 1 with
      | [] => (other.head? t).toList
      | words => words.filterMap fun word =>
          (other.named? t word).bind (other.reference? t)
    if heads.length < (arguments.all.drop 1).length then
      Job.fatal "couldn't find remote ref"
    Job.changeFiles fun t =>
      found.foldl
        (fun t (full, id) =>
          if full.startsWith tagStart && (site.reference? t full).isSome
          then t
          else site.writeTarget t full (.commit id))
        t
    Job.writeAdmin "FETCH_HEAD" (String.join (heads.map (· ++ "\n")))
    return 0

/- Fetch, and take over what was fetched. -/
def pull (args : List String) : Job Int := do
  let arguments ← Job.attempt (Arguments.ofTexts fetchRules args)
  let words := arguments.all
  let code ← fetch words
  if code != 0 then return code
  let desk ← get
  let upstream? := (desk.site.headName? desk.files).bind fun name =>
    desk.site.upstream? (shortName name)
  let goal ← match words, upstream? with
    | _ :: _ :: _, _ => pure "FETCH_HEAD"
    | _, some full => pure (without referenceStart full)
    | _, none =>
      Job.fail 1 "There is no tracking information for the current branch."
  let isRebase := arguments.has "rebase"
    || (desk.site.flag "pull.rebase" false && !arguments.has "no-rebase")
  if isRebase then Combining.rebase [goal]
  else
    let id? := desk.site.commitId? desk.world goal
    let isApart := match id?, desk.site.head? desk.files with
      | some id, some head =>
        !Site.isAncestor desk.world head id
          && !Site.isAncestor desk.world id head
      | _, _ => false
    let isDecided := arguments.hasAny ["no-rebase", "ff", "ff-only"]
      || arguments.hasNo "ff" || arguments.hasNo "rebase"
      || (desk.site.setting? "pull.rebase").isSome
      || (desk.site.setting? "pull.ff").isSome
    if isApart && !isDecided then
      Job.fatal "Need to specify how to reconcile divergent branches."
    Combining.merge ([goal]
      ++ (if arguments.has "ff-only" then ["--ff-only"] else [])
      ++ (if arguments.hasNo "ff" then ["--no-ff"] else []))

/- The options for pushing. -/
def pushRules : List String :=
  [ "v|verbose", "q|quiet", "repo=", "all", "branches", "mirror",
    "d|delete", "tags", "n|dry-run", "porcelain", "f|force",
    "force-with-lease?", "force-if-includes", "recurse-submodules=", "thin",
    "receive-pack=", "exec=", "u|set-upstream", "progress", "prune",
    "no-verify", "follow-tags", "signed?", "atomic", "o|push-option=",
    "4|ipv4", "6|ipv6" ]

/- What is pushed, and where to. -/
def pushed (desk : Desk) (arguments : Arguments) (words : List String) :
    Job (List (Option String × String)) := do
  let site := desk.site
  let t := desk.files
  let fullOf (name : String) : String :=
    if name.startsWith referenceStart then name
    else (site.named? t name).getD (branchStart ++ name)
  if arguments.hasAny ["all", "branches", "mirror"] then
    return (site.references t branchStart).map fun name =>
      (site.reference? t name, name)
  let tags := if arguments.has "tags" then
      (site.references t tagStart).map fun name =>
        (site.reference? t name, name)
    else []
  match words, site.headName? t with
  | [], some name =>
    if (site.reference? t name).isNone then
      Job.fail 1 "error: failed to push some refs"
    return (site.reference? t name, name) :: tags
  | [], none => Job.fatal "You are not currently on a branch."
  | words, _ =>
    let rows ← words.mapM fun word => do
      let word := if word.startsWith "+" then without "+" word else word
      match Text.splitAt ':' word with
      | [source] =>
        if arguments.has "delete" then return (none, fullOf source)
        let source := if source == headName || source == "@" then
            (site.headName? t).getD source else source
        match site.revision? desk.world source with
        | some id => return (some id, fullOf source)
        | none =>
          Job.fail 1 ("error: src refspec " ++ word
            ++ " does not match any")
      | ["", dest] => return (none, fullOf dest)
      | [source, dest] =>
        match site.revision? desk.world source with
        | some id =>
          return (some id, if dest.startsWith referenceStart then dest
            else branchStart ++ dest)
        | none =>
          Job.fail 1 ("error: src refspec " ++ source
            ++ " does not match any")
      | _ => Job.fatal ("invalid refspec '" ++ word ++ "'")
    return rows ++ tags

/- Push branches to another repository. -/
def push (args : List String) : Job Int := do
  let arguments ← Job.attempt (Arguments.ofTexts pushRules args)
  let desk ← get
  let site := desk.site
  let t := desk.files
  let name := arguments.all.head?.getD (usualRemote desk)
  Job.attempt (Creating.checkTransport site.settings site.call.env)
  match Creating.repositoryAt? t { site.call with
      cwd := site.top?.getD site.admin } (addressOf site name) with
  | none =>
    Job.fatal ("'" ++ name ++ "' does not appear to be a git repository")
  | some other =>
    let rows ← pushed desk arguments (arguments.all.drop 1)
    let isForced := arguments.hasAny ["force", "mirror"]
      || (arguments.all.drop 1).any (fun word => word.startsWith "+")
    let lines := rows.map fun (id?, full) =>
      full ++ " " ++ id?.getD Site.noId ++ " " ++ full ++ " "
        ++ (other.reference? t full).getD Site.noId ++ "\n"
    if !arguments.has "no-verify" then
      if !(← Committing.runHookWith "pre-push" [name, addressOf site name]
          site.indexFile (String.join lines)) then
        Job.fail 1 "error: failed to push some refs"
    let mut code : Int := 0
    for (id?, full) in rows do
      let old? := other.reference? t full
      let isBehind := match old?, id? with
        | some old, some id => Site.isAncestor desk.world old id
        | _, _ => true
      let isTaken := other.top?.isSome && other.headName? t == some full
        && old? != id?
        && (other.text? "receive.denycurrentbranch").all fun word =>
          word != "ignore" && word != "warn" && word != "updateInstead"
      if isTaken || (!isBehind && !isForced) then
        Job.complain ("error: failed to push some refs to '" ++ name ++ "'")
        code := 1
      else if !arguments.has "dry-run" then
        Job.changeFiles fun t =>
          match id? with
          | some id =>
            let t := other.writeTarget t full (.commit id)
            if (remoteNames site).contains name
                && full.startsWith branchStart then
              site.writeTarget t ("refs/remotes/" ++ name ++ "/"
                ++ shortName full) (.commit id)
            else t
          | none => other.dropReference t full
        if arguments.has "set-upstream" then
          Naming.follow (shortName full)
            ("refs/remotes/" ++ name ++ "/" ++ shortName full)
    return code

end Elsewhere

end Versions

end Sandbox

end TreeLint
