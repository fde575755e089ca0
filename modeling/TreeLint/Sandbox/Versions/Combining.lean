import TreeLint.Sandbox.Versions.Shelving

/-
  Commands that take over what other commits have changed.

  Key definitions include:
    * `Combining.merge`
    * `Combining.pick`
    * `Combining.rebase`

  A branch takes over all that another one has done, or what a
  single commit has changed, or it is put on another base.
  Where that cannot be settled, the work tree shows both sides
  and the command has to be concluded later.
-/

------------------------------------------------------------
-- What Is Left To Be Concluded
------------------------------------------------------------

namespace TreeLint

namespace Sandbox

namespace Versions

namespace Combining

/- Whether a file of the administration is there. -/
def isPending (name : String) : Job Bool :=
  return (← Job.adminText? name).isSome

/- Go back to where a command was started. -/
def giveUp (id? : Option String) : Job Int := do
  let desk ← get
  let refused ← Switching.toClean (Site.filesOf desk.world id?)
  if !refused.isEmpty then
    Job.fatal "Could not reset index file to revision 'HEAD'."
  Job.saveIndex
  Committing.forgetPending
  return 0

/- Check that nothing is in conflict and nothing is left over. -/
def checkSettled (action : String) : Job Unit := do
  let desk ← get
  if desk.index.any (fun e => e.stage != 0) then
    Job.fatal (action ++ " is not possible because you have unmerged files.")
  if ← isPending "MERGE_HEAD" then
    Job.fatal "You have not concluded your merge (MERGE_HEAD exists)."
  if ← isPending "CHERRY_PICK_HEAD" then
    Job.fatal ("You have not concluded your cherry-pick "
      ++ "(CHERRY_PICK_HEAD exists).")

/- Whether the index holds something that was not committed. -/
def hasStaged (desk : Desk) : Bool :=
  (Differences.withIndex desk.headFiles desk.index).any Differences.Row.differs

------------------------------------------------------------
-- Merging
------------------------------------------------------------

/- The options of the command. -/
def mergeRules : List String :=
  [ "n", "stat", "summary", "log?", "squash", "commit", "e|edit",
    "cleanup=", "ff", "ff-only", "rerere-autoupdate", "verify-signatures",
    "s|strategy=", "X|strategy-option=", "m|message=", "F|file=",
    "into-name=", "v|verbose", "q|quiet", "abort", "quit", "continue",
    "allow-unrelated-histories", "progress", "S|gpg-sign?", "autostash",
    "overwrite-ignore", "signoff", "no-verify", "compact-summary" ]

/- How sides are joined. -/
def favor? (arguments : Arguments) : Option Joining.Favor :=
  let asked := arguments.values "strategy-option"
  if asked.contains "ours" then some .ours
  else if asked.contains "theirs" then some .theirs
  else none

/- The rules by which sides are joined. -/
def rulesOf (arguments : Arguments) (labels : Joining.Labels) :
    Job Reconciling.Rules := do
  let desk ← get
  return Reconciling.rulesFor desk.world desk.site
    desk.lens labels (favor? arguments) true

/- The short form of a digest. -/
def short (id : String) : String :=
  String.ofList (id.toList.take 7)

/- What is merged, in words: kinds of names, for one and for many. -/
def kinds : List (String × String) :=
  [ ("branch", "branches"),
    ("remote-tracking branch", "remote-tracking branches"),
    ("tag", "tags"),
    ("commit", "commits") ]

/- The kind of a name, in words. -/
def kindOf (desk : Desk) (word : String) : String :=
  match desk.site.named? desk.files word with
  | some full =>
    if full.startsWith branchStart then "branch"
    else if full.startsWith tagStart then "tag"
    else if full.startsWith "refs/remotes/" then "remote-tracking branch"
    else "commit"
  | none => "commit"

/- Names in quotes, the last one joined by another word. -/
def enumerated (words : List String) : String :=
  let quoted := words.map fun word => "'" ++ word ++ "'"
  match quoted.reverse with
  | [] => ""
  | [word] => word
  | last :: rest => Text.joinWith ", " rest.reverse ++ " and " ++ last

/- The message of a merge. -/
def mergeMessage (desk : Desk) (arguments : Arguments)
    (words : List String) : String :=
  let messages := arguments.values "message"
  let parts := kinds.filterMap fun (one, many) =>
    match words.filter (fun word => kindOf desk word == one) with
    | [] => none
    | [word] => some (one ++ " '" ++ word ++ "'")
    | words => some (many ++ " " ++ enumerated words)
  let into := match desk.site.headName? desk.files with
    | some name =>
      if shortName name == "master" || shortName name == "main" then ""
      else " into " ++ shortName name
    | none => " into HEAD"
  if messages.isEmpty then
    "Merge " ++ Text.joinWith ", " parts ++ into
  else Text.joinWith "\n\n" messages

/- Leave a merge to be concluded. -/
def leaveMerge (ids : List String) (message : String) : Job Unit := do
  Job.writeAdmin "MERGE_HEAD" (String.join (ids.map (· ++ "\n")))
  Job.writeAdmin "MERGE_MSG" (message ++ "\n")
  Job.writeAdmin "MERGE_MODE" ""

/-
  Conclude a merge whose files are in the index: leave it for
  later if it is in conflict or if that is asked for, and make
  a commit otherwise.
-/
def conclude (arguments : Arguments) (words ids parents : List String)
    (isSettled : Bool) : Job Int := do
  let desk ← get
  let message := mergeMessage desk arguments words
  let isSquash := arguments.has "squash"
  if !isSettled then
    if isSquash then
      Job.writeAdmin "SQUASH_MSG" "Squashed commit of the following:\n"
      Job.writeAdmin "MERGE_MSG" (message ++ "\n")
    else leaveMerge ids message
    Job.say ("Automatic merge failed; fix conflicts and then commit the "
      ++ "result.")
    return 1
  if isSquash then
    Job.writeAdmin "SQUASH_MSG" "Squashed commit of the following:\n"
    return 0
  if arguments.hasNo "commit" then
    leaveMerge ids message
    return 0
  let isChecked := !arguments.has "no-verify"
  if isChecked then
    if !(← Committing.runHook "pre-merge-commit" []) then
      leaveMerge ids message
      return 1
    Committing.reload
  Job.writeAdmin "MERGE_MSG" message
  let file := (desk.site.admin ++ ["MERGE_MSG"]).toPath
  if !(← Committing.runHook "prepare-commit-msg" [file, "merge"]) then
    leaveMerge ids message
    return 1
  let message := (← Job.adminText? "MERGE_MSG").getD message
  let message ← if arguments.has "edit" then Committing.edited message
    else pure message
  Job.writeAdmin "MERGE_MSG" message
  if isChecked && !(← Committing.runHook "commit-msg" [file]) then
    leaveMerge ids message
    return 1
  let message := Committing.tidy
    (if arguments.has "edit" then .strip else .whitespace)
    ((← Job.adminText? "MERGE_MSG").getD message)
  if message.isEmpty then
    leaveMerge ids message
    Job.fail 1 "error: Empty commit message."
  if Committing.isSigned arguments desk.site then
    leaveMerge ids message
  Committing.checkUnsigned arguments
  Committing.record parents (← get).index.snapshot message
    ("merge " ++ Text.joinWith " " words
      ++ ": Merge made by the 'ort' strategy.")
  Committing.forgetPending
  discard <| Committing.runHook "post-merge" ["0"]
  return 0

/- Join the last commit with another one that has gone its own way. -/
def mergeApart (arguments : Arguments) (word id head : String) :
    Job Int := do
  let desk ← get
  let site := desk.site
  Job.attempt (Committing.checkPerson site "COMMITTER" "committer")
  let bases := Site.mergeBases desk.world head id
  if bases.isEmpty && !arguments.has "allow-unrelated-histories" then
    Job.fatal "refusing to merge unrelated histories"
  if hasStaged desk then
    Job.fail 2 ("error: Your local changes to the following files would be "
      ++ "overwritten by merge")
  let ours := desk.headFiles
  let theirs := Site.filesOf desk.world (some id)
  let rules ← rulesOf arguments
    ⟨headName, (bases.head?.map short).getD "empty tree", word⟩
  let joined :=
    if arguments.value? "strategy" == some "ours" then ⟨ours, [], true⟩
    else Reconciling.snapshots rules
      (Site.filesOf desk.world bases.head?) ours theirs
  Job.writeAdmin "ORIG_HEAD" (head ++ "\n")
  let refused ← Reconciling.carryOut ours joined
  if !refused.isEmpty then
    Job.fail 2 (Switching.complaint refused "merge")
  Job.saveIndex
  conclude arguments [word] [id] [head, id] joined.isSettled

/-
  Join files with those of further commits, one after another.
  `none` says that all but the last of them must not be in
  conflict; the commits that had to be joined are counted.
-/
def joinAll (desk : Desk) (head : String) :
    List String → List (String × String) → Reconciling.Joined →
      Option Reconciling.Joined
  | _, [], joined => some joined
  | seen, (word, id) :: rest, joined =>
    let bases := (seen.flatMap (Site.mergeBases desk.world · id)).eraseDups
    let base := bases.find? fun base =>
      bases.all fun other => Site.isAncestor desk.world other base
    if !joined.isSettled then none
    else if seen == [head] && base == some head then
      joinAll desk head [id] rest
        ⟨Site.filesOf desk.world (some id), [], true⟩
    else
      let rules := Reconciling.rulesFor desk.world desk.site
        desk.lens ⟨headName, "base", word⟩
        none false
      let next := Reconciling.snapshots rules (Site.filesOf desk.world base) joined.shown
        (Site.filesOf desk.world (some id))
      joinAll desk head (seen ++ [id]) rest next

/- Join the last commit with several others at once. -/
def mergeMany (arguments : Arguments) (goals : List (String × String))
    (head : String) : Job Int := do
  let desk ← get
  Job.attempt (Committing.checkPerson desk.site "COMMITTER" "committer")
  if hasStaged desk then
    Job.fail 2 ("error: Your local changes to the following files would be "
      ++ "overwritten by merge")
  Job.writeAdmin "ORIG_HEAD" (head ++ "\n")
  let ours := desk.headFiles
  match joinAll desk head [head] goals ⟨ours, [], true⟩ with
  | none =>
    Job.fail 2 "Merge with strategy octopus failed."
  | some joined =>
    let refused ← Reconciling.carryOut ours joined
    if !refused.isEmpty then
      Job.fail 2 (Switching.complaint refused "merge")
    Job.saveIndex
    let ids := goals.map Prod.snd
    let isBehind := ids.any (Site.isAncestor desk.world head)
    conclude arguments (goals.map Prod.fst) ids
      (if isBehind then ids else head :: ids) joined.isSettled

/- Go forward to a commit that comes after the last one. -/
def mergeForward (arguments : Arguments) (word id : String) : Job Int := do
  let desk ← get
  let site := desk.site
  let refused ← Switching.between
    ((desk.files.node? site.indexFile).isNone) desk.headFiles
    (Site.filesOf desk.world (some id))
  if !refused.isEmpty then
    Job.fail 1 (Switching.complaint refused "merge")
  Job.saveIndex
  if arguments.has "squash" then
    Job.writeAdmin "SQUASH_MSG" "Squashed commit of the following:\n"
  else
    match site.head? desk.files with
    | some head => Job.writeAdmin "ORIG_HEAD" (head ++ "\n")
    | none => pure ()
    Job.changeFiles fun t =>
      site.setReference t headName id ("merge " ++ word ++ ": Fast-forward")
    discard <| Committing.runHook "post-merge"
      [if arguments.has "squash" then "1" else "0"]
  return 0

/- Whether options and settings allow to go forward only. -/
def forwardRule (arguments : Arguments) (site : Site) :
    Bool × Bool :=
  let given := arguments.options.reverse.findSome? fun given =>
    if given.name == "ff" then some (!given.isNegated, false)
    else if given.name == "ff-only" && !given.isNegated then
      some (true, true)
    else none
  match given, site.setting? "merge.ff" with
  | some rule, _ => rule
  | none, some setting =>
    if setting.value == some "only" then (true, true)
    else ((Settings.boolean? setting.value).getD true, false)
  | none, none => (true, false)

/- Check that a merge may begin on a branch without commits. -/
def checkUnborn (arguments : Arguments) : Job Unit := do
  let desk ← get
  if (desk.site.head? desk.files).isNone then
    if arguments.has "squash" then
      Job.fatal "Squash commit into empty head not supported yet"
    if !(forwardRule arguments desk.site).1 then
      Job.fatal
        "Non-fast-forward commit does not make sense into an empty head"

/- Take over what another commit has. -/
def mergeOne (arguments : Arguments) (word : String) : Job Int := do
  let desk ← get
  let site := desk.site
  let (mayForward, onlyForward) := forwardRule arguments site
  if arguments.has "squash" && !mayForward
      && (arguments.last? "ff").isSome then
    Job.fatal "options '--squash' and '--no-ff.' cannot be used together"
  match site.commitId? desk.world word, site.head? desk.files with
  | none, _ =>
    Job.fail 1 ("merge: " ++ word ++ " - not something we can merge")
  | some id, none =>
    let refused ← Switching.between false []
      (Site.filesOf desk.world (some id))
    if !refused.isEmpty then
      Job.fail 128 (Switching.complaint refused "merge")
    Job.saveIndex
    Job.changeFiles fun t =>
      site.setReference t headName id "initial pull"
    return 0
  | some id, some head =>
    if Site.isAncestor desk.world id head then
      Job.say "Already up to date."
      return 0
    let isForward := Site.isAncestor desk.world head id
    if isForward && mayForward then mergeForward arguments word id
    else if onlyForward then
      Job.fatal "Not possible to fast-forward, aborting."
    else mergeApart arguments word id head

/- Take over what several commits have. -/
def mergeSeveral (arguments : Arguments) (words : List String) :
    Job Int := do
  let desk ← get
  let site := desk.site
  let goals ← words.mapM fun word => do
    match site.commitId? desk.world word with
    | some id => return (word, id)
    | none =>
      Job.fail 1 ("merge: " ++ word ++ " - not something we can merge")
  match site.head? desk.files with
  | none =>
    Job.fatal "Can merge only exactly one commit into empty head"
  | some head =>
    let others := head :: goals.map Prod.snd
    let news := goals.zipIdx.filter fun ((_, id), n) =>
      id != head
        && !others.any (fun other =>
          other != id && Site.isAncestor desk.world id other)
        && !(goals.take n).any (fun goal => goal.2 == id)
    match news.map Prod.fst with
    | [] =>
      Job.say "Already up to date."
      return 0
    | [(word, _)] => mergeOne arguments word
    | goals =>
      if (forwardRule arguments site).2 then
        Job.fatal "Not possible to fast-forward, aborting."
      mergeMany arguments goals head

/- The file that tells what was put aside during a merge. -/
def asideFile : String := "MERGE_AUTOSTASH"

/- Take up again what was put aside during a merge. -/
def takeBackAside : Job Unit := do
  match ← Job.adminId? asideFile with
  | some id =>
    Job.removeAdmin asideFile
    Shelving.takeBack id
  | none => pure ()

/- Put changes aside during a merge, if that is asked for. -/
def withAside (isAsked : Bool) (job : Job Int) : Job Int := do
  if !isAsked then job
  else
    match ← Shelving.setAside with
    | none => job
    | some id =>
      Job.writeAdmin asideFile (id ++ "\n")
      let code ← tryCatch job fun failure => do
        takeBackAside
        throw failure
      if code == 0 then
        takeBackAside
      return code

/- Whether changes are to be put aside, by options and settings. -/
def isAsideAsked (arguments : Arguments) (site : Site)
    (name : String) : Bool :=
  match arguments.last? "autostash" with
  | some given => !given.isNegated
  | none => site.flag name false

/- Make a commit, which may conclude a merge. -/
def commit (args : List String) : Job Int := do
  let code ← Committing.commit args
  if code == 0 then
    takeBackAside
  return code

/- The options that the settings of a branch add. -/
def branchOptions (site : Site) (t : FileTree) : List String :=
  match (site.headName? t).bind fun name =>
      site.text? ("branch." ++ shortName name ++ ".mergeoptions") with
  | some text =>
    ((Text.pieces Settings.isSpace text.toList).filter
      (fun word => !word.isEmpty)).map String.ofList
  | none => []

/- Take over what other commits have. -/
def merge (args : List String) : Job Int := do
  let desk ← get
  let site := desk.site
  let arguments ← Job.attempt
    (Arguments.ofTexts mergeRules (branchOptions site desk.files ++ args))
  if arguments.has "abort" then
    if !(← isPending "MERGE_HEAD") then
      Job.fatal "There is no merge to abort (MERGE_HEAD missing)."
    let code ← giveUp (site.head? desk.files)
    takeBackAside
    return code
  else if arguments.has "quit" then
    Committing.forgetPending
    match ← Job.adminId? asideFile with
    | some id =>
      Job.removeAdmin asideFile
      Shelving.store id "autostash"
    | none => pure ()
    return 0
  else if arguments.has "continue" then
    if !(← isPending "MERGE_HEAD") then
      Job.fatal "There is no merge in progress (MERGE_HEAD missing)."
    commit []
  else
    checkSettled "Merging"
    let isVerified := match arguments.last? "verify-signatures" with
      | some given => !given.isNegated
      | none => site.flag "merge.verifysignatures" false
    if isVerified then
      Job.fatal "Commit does not have a GPG signature."
    checkUnborn arguments
    let isAside := isAsideAsked arguments site "merge.autostash"
    match arguments.all with
    | [] =>
      match (site.headName? desk.files).bind fun name =>
          site.upstream? (shortName name) with
      | some full =>
        withAside isAside (mergeOne arguments (without referenceStart full))
      | none => Job.fatal "No remote for the current branch."
    | [word] =>
      let named := (Navigating.goal? desk word).bind Navigating.Goal.branch?
      let word := if word == "-" then (named.map shortName).getD word
        else word
      withAside isAside (mergeOne arguments word)
    | words => withAside isAside (mergeSeveral arguments words)

------------------------------------------------------------
-- Single Commits
------------------------------------------------------------

/- The options of the commands. -/
def pickRules : List String :=
  [ "quit", "continue", "abort", "skip", "cleanup=", "n|no-commit",
    "e|edit", "s|signoff", "m|mainline=", "rerere-autoupdate",
    "strategy=", "X|strategy-option=", "S|gpg-sign?", "x", "r", "ff",
    "allow-empty", "allow-empty-message", "keep-redundant-commits",
    "reference" ]

/- The name of a command that takes over single commits. -/
def actionOf (reverts : Bool) : String :=
  if reverts then "revert" else "cherry-pick"

/- The file that tells which commit is being taken over. -/
def pendingName (reverts : Bool) : String :=
  if reverts then "REVERT_HEAD" else "CHERRY_PICK_HEAD"

/- The message of a commit that takes back or takes over another one. -/
def pickMessage (reverts : Bool) (id : String) (c : Commit) : String :=
  let subject := Committing.subject c.message
  let start := "Revert \""
  let inner := without start subject
  let isAgain := subject.startsWith start && !inner.startsWith start
  if reverts then
    (if isAgain then "Reapply \"" ++ inner else start ++ subject ++ "\"")
      ++ "\n\nThis reverts commit " ++ id ++ ".\n"
  else c.message

/- Take one commit over, or take it back. -/
def pickOne (reverts : Bool) (arguments : Arguments) (id : String) :
    Job Int := do
  let desk ← get
  let site := desk.site
  let action := actionOf reverts
  let isLeft := arguments.has "no-commit"
  match desk.world.archive.commit? id with
  | none => Job.fatal ("bad object " ++ id)
  | some c =>
    let mainline? := (arguments.value? "mainline").bind fun text =>
      Numeral.natural? 10 text.toList
    let parent? ← match mainline?, c.parents with
      | none, _ :: _ :: _ =>
        Job.fatal ("commit " ++ id
          ++ " is a merge but no -m option was given.")
      | none, parents => pure parents.head?
      | some n, parents =>
        match (if n == 0 then none else parents[n - 1]?) with
        | some parent => pure (some parent)
        | none =>
          Job.fatal ("commit " ++ id ++ " does not have parent "
            ++ toString n)
    if desk.index.any (fun e => e.stage != 0) then
      Job.fatal (action ++ " failed")
    if !isLeft && hasStaged desk then
      Job.fatal ("your local changes would be overwritten by " ++ action
        ++ ".\nfatal: " ++ action ++ " failed")
    let isNext := !reverts && !isLeft && arguments.has "ff"
      && parent? == site.head? desk.files
    let files := Site.filesOf desk.world (some id)
    let before := Site.filesOf desk.world parent?
    let ours := if isLeft then desk.index.snapshot else desk.headFiles
    let label := short id ++ " (" ++ Committing.subject c.message ++ ")"
    let parent := "parent of " ++ label
    let rules ← rulesOf arguments
      (if reverts then ⟨headName, label, parent⟩
        else ⟨headName, parent, label⟩)
    let joined := if reverts then
        Reconciling.snapshots rules files ours before
      else
        Reconciling.snapshots rules before ours files
    let refused ← Reconciling.carryOut ours joined
    if !refused.isEmpty then
      Job.fatal (Switching.complaint refused "merge" ++ "\nfatal: "
        ++ action ++ " failed")
    Job.saveIndex
    let message := pickMessage reverts id c
    let message := if arguments.has "x" && !reverts then
        message ++ "\n(cherry picked from commit " ++ id ++ ")\n"
      else message
    if !joined.isSettled then
      Job.writeAdmin "MERGE_MSG" message
      if !isLeft || reverts then
        Job.writeAdmin (pendingName reverts) (id ++ "\n")
      return 1
    if isLeft then
      Job.writeAdmin "MERGE_MSG" message
      if reverts then
        Job.writeAdmin (pendingName reverts) (id ++ "\n")
      return 0
    if isNext then
      Committing.advance id ("cherry-pick: fast-forward")
      return 0
    let result := (← get).index.snapshot
    let wasEmpty := Snapshot.same files before
    let isKept := arguments.has "keep-redundant-commits"
      || (arguments.has "allow-empty" && wasEmpty)
    if Snapshot.same result ours && !isKept then
      Job.writeAdmin "MERGE_MSG" message
      if !reverts then
        Job.writeAdmin (pendingName reverts) (id ++ "\n")
      Job.say ("The previous " ++ action
        ++ " is now empty, possibly due to conflict resolution.")
      return 1
    Committing.checkPeople
    let message ← if arguments.has "edit" then Committing.edited message
      else pure message
    let message := Committing.tidy
      (if arguments.has "edit" then .strip else .whitespace) message
    if message.isEmpty && !arguments.has "allow-empty-message" then
      Job.fail 1 "Aborting commit due to empty commit message."
    Job.writeAdmin Committing.messageFile message
    let file := (site.admin ++ [Committing.messageFile]).toPath
    if !(← Committing.runHook "prepare-commit-msg" [file, "message"]) then
      Job.fail 1 ("error: 'prepare-commit-msg' hook failed")
    let message := (← Job.adminText? Committing.messageFile).getD message
    if Committing.isSigned arguments site then
      Job.writeAdmin "MERGE_MSG" message
      if !reverts then
        Job.writeAdmin (pendingName reverts) (id ++ "\n")
    Committing.checkUnsigned arguments
    Committing.record (site.head? desk.files).toList result message
      (action ++ ": " ++ Committing.firstLine message)
    discard <| Committing.runHook "post-commit" []
    return 0

/- The commits that came before some and not before others. -/
def between (world : World) (tips others : List String) : List String :=
  let seen := others.flatMap (Site.history world)
  let all := (tips.flatMap (Site.history world)).eraseDups
  all.filter (fun id => !seen.contains id)

/- The commits of a range, the oldest first. -/
def range? (desk : Desk) (word : String) : Option (List String) :=
  let site := desk.site
  let idOf (name : String) : Option String :=
    site.commitId? desk.world (if name.isEmpty then headName else name)
  match word.splitOn ".." with
  | [old, new] =>
    match idOf old, idOf new with
    | some old, some new =>
      some (between desk.world [new] [old])
    | _, _ => none
  | _ => none

/- The file with what is still to be taken over. -/
def sequenceFile : String := "sequencer/todo"

/- Take commits over, or take them back, one after another. -/
def pickAll (reverts : Bool) (arguments : Arguments) :
    List String → Job Int
  | [] => pure 0
  | id :: rest => do
    let code ← pickOne reverts arguments id
    if code == 0 then pickAll reverts arguments rest
    else
      if !rest.isEmpty then
        Job.writeAdmin sequenceFile
          (String.join (rest.map (fun id => id ++ "\n")))
      return code

/- Take over what single commits have changed, or take it back. -/
def pick (reverts : Bool) (args : List String) : Job Int := do
  let arguments ← Job.attempt (Arguments.ofTexts pickRules args)
  let desk ← get
  let site := desk.site
  let action := actionOf reverts
  let isOpen ← isPending (pendingName reverts)
  let isOtherOpen ← isPending (pendingName !reverts)
  let rest := Committing.idsIn ((← Job.adminText? sequenceFile).getD "")
  let forget : Job Unit := do
    Job.removeAdmin "sequencer"
    Committing.forgetPending
  if arguments.hasAny ["quit", "abort", "skip", "continue"] then
    let isAnyOpen := isOpen
      || (isOtherOpen && arguments.hasAny ["abort", "continue"])
    if !isAnyOpen && rest.isEmpty && !arguments.has "quit" then
      Job.fatal (action ++ " failed")
    if arguments.has "quit" then
      forget
      return 0
    else if arguments.has "abort" then
      Job.removeAdmin "sequencer"
      let start? ← Job.adminId? "ORIG_PICK"
      match start? with
      | some start => Navigating.resetTo .merge false start (some start)
      | none => giveUp (site.head? desk.files)
    else if arguments.has "skip" then
      discard <| giveUp (site.head? desk.files)
      Job.removeAdmin "sequencer"
      pickAll reverts arguments rest
    else
      Job.removeAdmin "sequencer"
      let code ←
        if isAnyOpen then Committing.commit ["--no-edit"] else pure 0
      if code == 0 then pickAll reverts arguments rest else return code
  else
    let words := arguments.all
    if words.isEmpty then
      throw (.usage ("usage: git " ++ action ++ " [<options>] <commit>..."))
    let lists ← words.mapM fun word => do
      match range? desk word with
      | some ids => return if reverts then ids.reverse else ids
      | none =>
        let word := if word == "-" then "@\x7b-1\x7d" else word
        match site.commitId? desk.world word with
        | some id => return [id]
        | none => Job.fatal ("bad revision '" ++ word ++ "'")
    if 1 < lists.flatten.length && !rest.isEmpty then
      Job.fatal (action ++ " failed")
    let code ← pickAll reverts arguments lists.flatten
    if code == 0 && !arguments.has "no-commit" then
      forget
    return code

------------------------------------------------------------
-- Another Base
------------------------------------------------------------

/- The options of the command. -/
def rebaseRules : List String :=
  [ "onto=", "keep-base", "no-verify", "q|quiet", "v|verbose", "n|no-stat",
    "signoff", "committer-date-is-author-date", "reset-author-date",
    "ignore-date", "C=", "ignore-whitespace", "whitespace=",
    "f|force-rebase", "no-ff", "continue", "skip", "abort", "quit",
    "edit-todo", "show-current-patch", "apply", "m|merge",
    "i|interactive", "rerere-autoupdate", "empty=", "k|keep-empty",
    "autosquash", "update-refs", "S|gpg-sign?", "autostash", "x|exec=",
    "allow-empty-message", "r|rebase-merges?", "fork-point",
    "s|strategy=", "X|strategy-option=", "root", "reschedule-failed-exec",
    "reapply-cherry-picks", "stat" ]

/- The directory in which the state of the command is kept. -/
def rebaseStart : String := "rebase-merge/"

/- Whether files of the work tree or the index were changed. -/
def isDirty (desk : Desk) : Bool :=
  Differences.hasChanges desk desk.lens

/- The file with the commits that others have taken the place of. -/
def rewrittenFile : String := rebaseStart ++ "rewritten-list"

/- The file that tells what was put aside. -/
def rebaseAside : String := rebaseStart ++ "autostash"

/- End the command, and take up again what was put aside. -/
def endRebase : Job Unit := do
  let aside? ← Job.adminId? rebaseAside
  Job.removeAdmin "rebase-merge"
  Committing.forgetPending
  match aside? with
  | some id => Shelving.takeBack id
  | none => pure ()

/- Conclude when all commits have been taken over. -/
def finishRebase (branch? : Option String) : Job Int := do
  let desk ← get
  let site := desk.site
  match branch?, site.head? desk.files with
  | some branch, some id =>
    Job.changeFiles fun t =>
      let t := site.setReference t branch id
        ("rebase (finish): " ++ branch)
      site.setHead t (.other branch)
        ("rebase (finish): returning to " ++ branch)
  | _, _ => pure ()
  let rewritten := (← Job.adminText? rewrittenFile).getD ""
  endRebase
  if !rewritten.isEmpty then
    discard <| Committing.runHookWith "post-rewrite" ["rebase"]
      site.indexFile rewritten
  return 0

/- Take over the commits that are left. -/
def replay (branch? : Option String) : List String → Job Int
  | [] => finishRebase branch?
  | id :: rest => do
    let arguments : Arguments := ⟨[⟨"ff", false, none⟩], [], none⟩
    let before := (← get).site.head? (← get).files
    let code ← tryCatch (pickOne false arguments id) fun failure => do
      Job.writeAdmin (rebaseStart ++ "todo")
        (String.join ((id :: rest).map (fun id => id ++ "\n")))
      throw { failure with code := 1 }
    let after := (← get).site.head? (← get).files
    let isEmpty := code == 1 && before == after
      && !(← get).index.any (fun e => e.stage != 0)
    if code == 0 || isEmpty then
      Committing.forgetPending
      match after with
      | some new =>
        let known := (← Job.adminText? rewrittenFile).getD ""
        Job.writeAdmin rewrittenFile (known ++ id ++ " " ++ new ++ "\n")
      | none => pure ()
      replay branch? rest
    else
      Job.writeAdmin (rebaseStart ++ "todo")
        (String.join (rest.map (fun id => id ++ "\n")))
      return 1

/- A word with the short name of the branch before written in full. -/
def unfolded (word : String) : String :=
  if word == "-" then "@\x7b-1\x7d" else word

/- Put a branch on another base; `aside?` is what was put aside. -/
def startRebase (arguments : Arguments) (aside? : Option String)
    (takeBack : Job Unit) : Job Int := do
  let desk ← get
  let site := desk.site
  let words := arguments.all.map unfolded
  let isRoot := arguments.has "root"
  let (upstream?, goal?) := match isRoot, words with
    | true, words => (none, words.head?)
    | false, upstream :: rest => (some upstream, rest.head?)
    | false, [] => (none, none)
  let upstream? := match upstream?, isRoot with
    | some word, _ => some word
    | none, true => none
    | none, false =>
      ((site.headName? desk.files).bind fun name =>
        site.upstream? (shortName name)).map (without referenceStart)
  match goal? with
  | some word =>
    let code ← Navigating.checkout ["-q", word]
    if code != 0 then Job.fatal ("no such branch/commit '" ++ word ++ "'")
  | none => pure ()
  let desk ← get
  let head? := site.head? desk.files
  match upstream?.map (site.commitId? desk.world), head? with
  | some none, _ =>
    Job.fatal ("invalid upstream '" ++ upstream?.getD "" ++ "'")
  | _, none => Job.fatal "Could not resolve HEAD to a commit"
  | upstreamId, some head =>
    let upstreamId := upstreamId.join
    if upstreamId.isNone && !isRoot then
      Job.fail 1 "There is no tracking information for the current branch."
    let onto? ← match arguments.value? "onto" with
      | some word =>
        match site.commitId? desk.world word with
        | some id => pure (some id)
        | none =>
          Job.fatal ("Does not point to a valid commit '" ++ word ++ "'")
      | none => pure upstreamId
    let commits := (between desk.world [head] upstreamId.toList).filter
      fun id => ((desk.world.archive.commit? id).map
        (fun c => decide (c.parents.length < 2))).getD false
    match onto? with
    | none => return 0
    | some onto =>
      let base := Site.mergeBases desk.world head onto
      if base == [onto] && upstreamId == some onto
          && !arguments.hasAny ["force-rebase", "no-ff"] then
        Job.say "Current branch is up to date."
        takeBack
        return 0
      let branch? := site.headName? desk.files
      if !arguments.has "no-verify" then
        let named := (upstream?.getD onto) :: goal?.toList
        if !(← Committing.runHook "pre-rebase" named) then
          Job.fatal "The pre-rebase hook refused to rebase."
      let refused ← Switching.between false desk.headFiles
        (Site.filesOf desk.world (some onto))
      if !refused.isEmpty then
        Job.fail 1 (Switching.complaint refused "checkout")
      Job.saveIndex
      Job.writeAdmin (rebaseStart ++ "orig-head") (head ++ "\n")
      Job.writeAdmin (rebaseStart ++ "head-name")
        (branch?.getD "detached HEAD" ++ "\n")
      match aside? with
      | some id => Job.writeAdmin rebaseAside (id ++ "\n")
      | none => pure ()
      Job.writeAdmin "ORIG_HEAD" (head ++ "\n")
      Job.changeFiles fun t =>
        site.setHead t (.commit onto) "rebase (start): checkout"
      replay branch? commits

/- Check that the words of a call name commits. -/
def checkNames (arguments : Arguments) : Job Unit := do
  let desk ← get
  let resolves (word : String) : Bool :=
    (desk.site.commitId? desk.world word).isSome
  let words := arguments.all.map unfolded
  let (upstream?, goal?) := match arguments.has "root", words with
    | true, words => (none, words.head?)
    | false, words => (words.head?, (words.drop 1).head?)
  match upstream? with
  | some word =>
    if !resolves word then Job.fatal ("invalid upstream '" ++ word ++ "'")
  | none => pure ()
  match arguments.value? "onto" with
  | some word =>
    if !resolves word && (word.splitOn "...").length < 2 then
      Job.fatal ("Does not point to a valid commit '" ++ word ++ "'")
  | none => pure ()
  match goal? with
  | some word =>
    if !resolves word then
      Job.fatal ("no such branch/commit '" ++ word ++ "'")
  | none => pure ()

/- Put a branch on another base. -/
def rebase (args : List String) : Job Int := do
  let arguments ← Job.attempt (Arguments.ofTexts rebaseRules args)
  let desk ← get
  let site := desk.site
  let rest := Committing.idsIn
    ((← Job.adminText? (rebaseStart ++ "todo")).getD "")
  let isOpen ← isPending (rebaseStart ++ "orig-head")
  let branch? := (← Job.adminText? (rebaseStart ++ "head-name")).bind
    fun text =>
      let name := (Text.splitAt '\n' text).head?.getD ""
      if name.startsWith referenceStart then some name else none
  if arguments.hasAny ["abort", "continue", "skip", "quit"] then
    if !isOpen then
      Job.fatal "no rebase in progress"
    if arguments.has "quit" then
      match ← Job.adminId? rebaseAside with
      | some id => Shelving.store id "autostash"
      | none => pure ()
      Job.removeAdmin "rebase-merge"
      return 0
    else if arguments.has "abort" then
      let start? ← Job.adminId? (rebaseStart ++ "orig-head")
      Switching.force (Site.filesOf desk.world start?)
      Job.saveIndex
      Job.changeFiles fun t =>
        match branch?, start? with
        | some branch, _ =>
          site.setHead t (.other branch) "rebase (abort): returning"
        | none, some id =>
          site.setHead t (.commit id) "rebase (abort): returning"
        | none, none => t
      endRebase
      return 0
    else if arguments.has "skip" then
      Switching.force desk.headFiles
      Job.saveIndex
      Committing.forgetPending
      replay branch? rest
    else
      if desk.index.any (fun e => e.stage != 0) then
        Job.fail 1 "error: commit your changes and then run rebase"
      let lens := desk.lens
      let insight :=
        { Differences.Insight.of desk with forced? := some .everything }
      let isOpen := (Differences.ofTree insight desk lens).any
        Differences.Row.differs
      if isOpen then
        Job.fail 1 ("You must edit all merge conflicts and then\n"
          ++ "mark them as resolved using git add")
      let code ← if hasStaged desk then Committing.commit [] else pure 0
      if code != 0 then return 1
      Committing.forgetPending
      replay branch? rest
  else
    if isOpen then
      Job.fatal "It seems that there is already a rebase-merge directory"
    checkNames arguments
    let isAside := isAsideAsked arguments site "rebase.autostash"
    if desk.index.any (fun e => e.stage != 0)
        || (isDirty desk && !isAside) then
      Job.fail 1 "error: cannot rebase: You have unstaged changes."
    let aside? ← if isAside then Shelving.setAside else pure none
    let takeBack : Job Unit := match aside? with
      | some id => Shelving.takeBack id
      | none => pure ()
    tryCatch (startRebase arguments aside? takeBack) fun failure => do
      takeBack
      throw failure

end Combining

end Versions

end Sandbox

end TreeLint
