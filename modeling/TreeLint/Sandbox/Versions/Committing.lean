import TreeLint.Sandbox.Versions.Staging

/-
  Making commits.

  Key definitions include:
    * `Committing.tidy`
    * `Committing.runHook`
    * `Committing.edited`
    * `Committing.record`
    * `Committing.commit`

  A commit holds the index, or the last commit with some files
  of the work tree.  It has a message, and there has to be
  something in it that the last commit does not have.
-/

------------------------------------------------------------
-- Messages
------------------------------------------------------------

namespace TreeLint

namespace Sandbox

namespace Versions

namespace Committing

/- A line without white space at its end. -/
def trimmedLine (line : List Char) : List Char :=
  (line.reverse.dropWhile
    (fun c => c.isWhitespace || c == '\x0b' || c == '\x0c')).reverse

/- Lines without blank ones at the start and doubled ones inside. -/
def withoutGaps : Bool → List (List Char) → List (List Char)
  | _, [] => []
  | isGap, line :: rest =>
    if line.isEmpty then
      if isGap then withoutGaps true rest else [] :: withoutGaps true rest
    else
      line :: withoutGaps false rest

/- How a message is cleaned up. -/
inductive Cleanup where
  | verbatim
  | whitespace
  | strip
deriving DecidableEq

/- A message as it is kept. -/
def tidy (cleanup : Cleanup) (text : String) : String :=
  if cleanup == .verbatim then text
  else
    let lines := (Text.pieces (· == '\n') text.toList).map trimmedLine
    let lines := if cleanup == .strip then
        lines.filter (fun line => line.head? != some '#')
      else lines
    let lines := withoutGaps true lines
    let lines := (lines.reverse.dropWhile List.isEmpty).reverse
    String.join (lines.map (fun line => String.ofList line ++ "\n"))

/- The first paragraph of a message, in one line. -/
def subject (message : String) : String :=
  let lines := (Text.splitAt '\n' message).dropWhile String.isEmpty
  Text.joinWith " " (lines.takeWhile (fun line => !line.isEmpty))

/- The first line of a message. -/
def firstLine (message : String) : String :=
  String.ofList (message.toList.takeWhile (· != '\n'))

------------------------------------------------------------
-- Other Programs
------------------------------------------------------------

/- Start a program at the top of the work tree. -/
def launch (program : String) (args : List String)
    (added : List (String × String)) (input : String) :
    Job (Option Int) := do
  let desk ← get
  let call := desk.site.call
  let env := added ++ call.env.filter
    (fun (name, _) => (added.lookup name).isNone)
  let cwd := desk.site.top?.getD desk.site.admin
  let start : Start := ⟨program, args, env, cwd, RawByte.encode input, false⟩
  match call.launch desk.world start with
  | none => return none
  | some ran =>
    modify fun desk =>
      { desk with
        world := ran.world
        out := desk.out ++ ran.out
        err := desk.err ++ ran.err }
    return some (ran.code.getD 128)

/- Read the index again from a file. -/
def reloadFrom (file : Location) : Job Unit := do
  let desk ← get
  let index ← Job.attempt ((indexIn desk.world file).map
    (Desk.withFound desk.site desk.files))
  set { desk with index }

/- Read the index again. -/
def reload : Job Unit := do
  reloadFrom (← get).site.indexFile

/- Run a program that is to be run at some point, if there is one. -/
def runHookWith (name : String) (args : List String)
    (indexFile : Location) (input : String) : Job Bool := do
  let desk ← get
  let site := desk.site
  let place := match site.text? "core.hookspath" with
    | some p =>
      let p := if p.startsWith "~/" then
          (site.valueOf? "HOME").getD "" ++ without "~" p else p
      Path.join (Location.toPath (site.top?.getD site.admin)) p
    | none => (site.common ++ ["hooks"]).toPath
  let file := place ++ "/" ++ name
  if desk.files.isProgram [] file then
    match ← launch file args
        [("GIT_INDEX_FILE", indexFile.toPath)] input with
    | some 0 => return true
    | some _ => return false
    | none =>
      Job.complain ("fatal: cannot run " ++ file)
      return false
  else
    return true

/- Run such a program with the index of the repository. -/
def runHook (name : String) (args : List String) : Job Bool := do
  runHookWith name args (← get).site.indexFile ""

/- The program with which messages are written. -/
def editor? (site : Site) : Option String :=
  let isDumb := match site.valueOf? "TERM" with
    | none => true
    | some term => term == "dumb"
  match site.valueOf? "GIT_EDITOR", site.text? "core.editor" with
  | some editor, _ => some editor
  | none, some editor => some editor
  | none, none =>
    match (if isDumb then none else site.valueOf? "VISUAL"),
        site.valueOf? "EDITOR" with
    | some editor, _ => some editor
    | none, some editor => some editor
    | none, none => if isDumb then none else some "vi"

/- What is written below a message for those who edit it. -/
def hints : String :=
  "\n# Please enter the commit message for your changes. Lines starting\n"
    ++ "# with '#' will be ignored, and an empty message aborts the "
    ++ "commit.\n"

/- The name of the file in which messages are edited. -/
def messageFile : String := "COMMIT_EDITMSG"

/- Let a message be edited. -/
def edited (message : String) : Job String := do
  let desk ← get
  Job.writeAdmin messageFile (message ++ hints)
  let file := (desk.site.admin ++ [messageFile]).toPath
  let code? ← match editor? desk.site with
    | none => pure none
    | some ":" => pure (some 0)
    | some editor =>
      launch "sh" ["-c", editor ++ " \"$@\"", editor, file] [] ""
  if code? != some 0 then
    Job.fail 1
      "Please supply the message using either -m or -F option."
  return (← Job.adminText? messageFile).getD ""

------------------------------------------------------------
-- Who Makes A Commit
------------------------------------------------------------

/- Characters that are cut off the ends of a name. -/
def isCrud (c : Char) : Bool :=
  c.toNat ≤ 32 || ".,:;<>\"\\'".toList.contains c

/- Check that it is known who somebody is. -/
def checkPerson (site : Site) (role section' : String) :
    Attempt Unit := do
  let name? := match site.valueOf? ("GIT_" ++ role ++ "_NAME"),
      site.text? (section' ++ ".name") with
    | some name, _ => some name
    | none, some name => some name
    | none, none => site.text? "user.name"
  let email? := match site.valueOf? ("GIT_" ++ role ++ "_EMAIL"),
      site.text? (section' ++ ".email"), site.text? "user.email" with
    | some email, _, _ => some email
    | none, some email, _ => some email
    | none, none, some email => some email
    | none, none, none =>
      match site.valueOf? "EMAIL" with
      | some "" => none
      | other => other
  match email? with
  | none =>
    .error (.fatal "unable to auto-detect email address")
  | some _ => pure ()
  match name? with
  | none =>
    if site.flag "user.useconfigonly" false then
      .error (.fatal
        "no name was given and auto-detection is disabled")
  | some "" =>
    .error (.fatal "empty ident name (for <>) not allowed")
  | some name =>
    if name.toList.all isCrud then
      .error (.fatal ("name consists only of disallowed characters: "
        ++ name))

/- Check that it is known who makes a commit. -/
def checkPeople : Job Unit := do
  let site := (← get).site
  Job.attempt (checkPerson site "AUTHOR" "author")
  Job.attempt (checkPerson site "COMMITTER" "committer")

------------------------------------------------------------
-- Recording
------------------------------------------------------------

/- Whether commits are to be signed, by options and settings. -/
def isSigned (arguments : Arguments) (site : Site) : Bool :=
  match arguments.last? "gpg-sign" with
  | some given => !given.isNegated
  | none => site.flag "commit.gpgsign" false

/- Nobody here has a key to sign commits with. -/
def checkUnsigned (arguments : Arguments) : Job Unit := do
  if isSigned arguments (← get).site then
    Job.fail 128 ("error: gpg failed to sign the data\n"
      ++ "fatal: failed to write commit object")

/- The files that tell of something that is not finished yet. -/
def pendingFiles : List String :=
  [ "MERGE_HEAD", "MERGE_MSG", "MERGE_MODE", "MERGE_RR", "AUTO_MERGE",
    "CHERRY_PICK_HEAD", "REVERT_HEAD", "SQUASH_MSG" ]

/- Forget what is not finished yet. -/
def forgetPending : Job Unit := do
  for name in pendingFiles do
    Job.removeAdmin name

/- Let the head, or the branch that it is on, stand for a commit. -/
def advance (id note : String) : Job Unit := do
  let desk ← get
  let name := desk.site.lastName desk.files 5 headName
  if desk.site.canWrite desk.files name then
    Job.changeFiles fun t => desk.site.setReference t headName id note
  else
    Job.fatal ("cannot lock ref 'HEAD': unable to create " ++ name)

/- Make a commit on top of others, and go on from it. -/
def record (parents : List String) (files : Snapshot)
    (message note : String) : Job Unit := do
  let id ← Job.makeCommit parents files message
  advance id note

/- The commits in a file, one a line. -/
def idsIn (text : String) : List String :=
  (Text.splitAt '\n' text).filter isId

/- The complaint when there is nothing to commit. -/
def nothing (desk : Desk) : String :=
  let branch := (desk.site.headName? desk.files).getD headName
  "On branch " ++ shortName branch
    ++ "\nnothing to commit, working tree clean"

------------------------------------------------------------
-- The Command
------------------------------------------------------------

/- The options of the command. -/
def rules : List String :=
  [ "q|quiet", "v|verbose", "F|file=", "author=", "date=", "m|message=",
    "c|reedit-message=", "C|reuse-message=", "fixup=", "squash=",
    "reset-author", "trailer=", "s|signoff", "t|template=", "e|edit",
    "cleanup=", "status", "S|gpg-sign?", "a|all", "i|include",
    "interactive", "p|patch", "o|only", "n|no-verify", "dry-run", "short",
    "branch", "ahead-behind", "porcelain", "long", "z|null", "amend",
    "no-post-rewrite", "u|untracked-files?", "pathspec-from-file=",
    "pathspec-file-nul", "allow-empty", "allow-empty-message" ]

/- The message that options give, if they do. -/
def givenMessage? (arguments : Arguments) : Job (Option String) := do
  let desk ← get
  let messages := arguments.values "message"
  if !messages.isEmpty then
    return some (String.join (messages.zipIdx.map fun (text, n) =>
      (if n == 0 then "" else "\n") ++ text
        ++ (if text.endsWith "\n" then "" else "\n")))
  match arguments.value? "file" with
  | some "-" => return some (RawByte.decode desk.site.call.stdin)
  | some p =>
    match desk.files.read? desk.site.call.cwd p with
    | some content => return some (RawByte.decode content)
    | none =>
      Job.fatal ("could not read log file '" ++ p ++ "'")
  | none => pure ()
  let reused := match arguments.value? "reuse-message" with
    | some name => some name
    | none => arguments.value? "reedit-message"
  match reused with
  | some name =>
    match (desk.site.commitId? desk.world name).bind
        desk.world.archive.commit? with
    | some c => return some c.message
    | none => Job.fatal ("could not lookup commit " ++ name)
  | none => pure ()
  match arguments.value? "fixup" with
  | some name =>
    match (desk.site.commitId? desk.world name).bind
        desk.world.archive.commit? with
    | some c => return some ("fixup! " ++ subject c.message ++ "\n")
    | none => Job.fatal ("could not lookup commit " ++ name)
  | none => return none

/- The file whose text a message starts with, if there is one. -/
def templateFile? (site : Site) (arguments : Arguments) : Option Path :=
  match arguments.value? "template" with
  | some p => some p
  | none => site.text? "commit.template"

/-
  The message of a commit before anybody has edited it, and
  whether it comes from a file that is to be completed.
-/
def startMessage (arguments : Arguments) (given? : Option String) :
    Job (String × Bool) := do
  let desk ← get
  match given? with
  | some message => return (message, false)
  | none =>
    match ← Job.adminText? "MERGE_MSG", ← Job.adminText? "SQUASH_MSG" with
    | some message, none => return (message, false)
    | some message, some squash => return (squash ++ "\n" ++ message, false)
    | none, some message => return (message, false)
    | none, none =>
      if arguments.has "amend" then
        match (desk.site.head? desk.files).bind
            desk.world.archive.commit? with
        | some c => return (c.message, false)
        | none => return ("", false)
      else
        match templateFile? desk.site arguments with
        | none => return ("", false)
        | some p =>
          match desk.files.read? desk.site.call.cwd p with
          | some content => return (RawByte.decode content, true)
          | none => Job.fatal ("could not read '" ++ p ++ "'")

/- The paths that arguments stand for, in the index or a commit. -/
def knownPaths (specs : Pathspec) : Job (List Path) := do
  let desk ← get
  let known := Snapshot.paths
    [desk.headFiles, desk.index.map fun e => (e.path, e.file)]
  match specs.unmatched? known with
  | some spec =>
    Job.fail 1 ("error: pathspec '" ++ spec.argument
      ++ "' did not match any file(s) known to git")
  | none => return known.filter specs.covers

/- Bring some paths of an index up to date with the work tree. -/
def withPaths (desk : Desk) (paths : List Path) (index : Index) : Index :=
  let lens := desk.lens
  let isSkipped (p : Path) : Bool :=
    (desk.index.entry? p).any Entry.skipped
  (paths.filter (fun p => !isSkipped p)).foldl
    (fun index p =>
      match WorkTree.entryFor? desk.site desk.files lens
          (desk.index.entry? p) p with
      | some entry => index.put entry
      | none => index.drop p)
    index

/- Check that the options go together. -/
def checkOptions (arguments : Arguments) (words : List String) :
    Job Unit := do
  let desk ← get
  let pending (name : String) : Bool :=
    (desk.files.node? (desk.site.admin ++ [name])).isSome
  let isOn := arguments.has
  let count := (["reuse-message", "reedit-message", "fixup",
    "file"].filter (fun name => (arguments.value? name).isSome)).length
  if 1 < count then
    Job.fatal "options '-C', '-c', '-F' and '--fixup' cannot be used together"
  if !(arguments.values "message").isEmpty
      && 0 < count && (arguments.value? "fixup").isNone then
    Job.fatal "options '-m' and '-F' cannot be used together"
  if (if isOn "all" then 1 else 0) + (if isOn "include" then 1 else 0)
      + (if isOn "only" then 1 else 0) > 1 then
    Job.fatal ("options '-i/--include', '-o/--only', '-a/--all', "
      ++ "'--interactive' and '-p/--patch' cannot be used together")
  if words.isEmpty && (isOn "include" || (isOn "only" && !isOn "amend")) then
    Job.fatal "No paths with --include/--only does not make sense."
  if isOn "all" && !words.isEmpty then
    Job.fatal ("paths '" ++ (words.head?.getD "")
      ++ " ...' with -a does not make sense")
  if isOn "amend" then
    if (desk.site.head? desk.files).isNone then
      Job.fatal "You have nothing to amend."
    if pending "MERGE_HEAD" then
      Job.fatal "You are in the middle of a merge -- cannot amend."
    if pending "CHERRY_PICK_HEAD" then
      Job.fatal "You are in the middle of a cherry-pick -- cannot amend."
  match arguments.value? "author" with
  | some author =>
    if !(author.contains '<' && author.contains '>') then
      Job.fatal ("--author '" ++ author ++ "' is not 'Name <email>' and "
        ++ "matches no existing author")
  | none => pure ()

/- What a commit is prepared with. -/
structure Draft where
  /- The file with the index that the commit holds. -/
  file : Location
  /- The index afterwards, where the commit holds another one. -/
  later? : Option Index

/- Give up while there is something unmerged. -/
def unmerged {α : Type} : Job α := do
  Job.complain ("error: Committing is not possible because you have "
    ++ "unmerged files.")
  Job.fatal "Exiting because of an unresolved conflict."

/- Lay what the commit is to hold on the desk. -/
def prepared (arguments : Arguments) (words : List String) :
    Job Draft := do
  let specs ← Staging.specsOf words
  let desk ← get
  let own := desk.site.indexFile
  let isPending :=
    (desk.files.node? (desk.site.admin ++ ["MERGE_HEAD"])).isSome
      || (desk.files.node?
        (desk.site.admin ++ ["CHERRY_PICK_HEAD"])).isSome
  if words.isEmpty || arguments.has "include" then
    let isWider := arguments.has "all" || !words.isEmpty
    Job.checkLock own
    if isWider then
      Staging.refresh specs ⟨false, false, false, true⟩
    WorkTree.learn
    if (← get).index.any (fun e => e.stage != 0) then
      unmerged
    let file := if isWider then Job.lockOf own else own
    Job.putIndexAt file
    return ⟨file, none⟩
  else
    if isPending then
      Job.fatal "cannot do a partial commit during a merge."
    let paths ← knownPaths specs
    Job.checkLock own
    if desk.index.any (fun e => e.stage != 0 && !paths.contains e.path) then
      Job.fatal "Exiting because of an unresolved conflict."
    WorkTree.check true true paths
    let partly := withPaths desk paths (Index.ofSnapshot desk.headFiles)
    let later := withPaths desk paths desk.index
    let file := Job.lockOf (desk.site.admin ++ ["next-index-1"])
    Job.changeIndex fun _ => later
    Job.putIndexAt (Job.lockOf own)
    Job.changeIndex fun _ => partly
    Job.putIndexAt file
    return ⟨file, some later⟩

/- Leave the files behind that a commit was prepared with. -/
def discardDraft (draft : Draft) : Job Unit := do
  let own := (← get).site.indexFile
  if draft.file != own then
    Job.changeFiles fun t => (t.erase draft.file).erase (Job.lockOf own)

/- How the message of a commit is cleaned up. -/
def cleanupFor (arguments : Arguments) (isEdited : Bool) :
    Job Cleanup := do
  let site := (← get).site
  let usual : Cleanup := if isEdited then .strip else .whitespace
  let word? := match arguments.value? "cleanup" with
    | some word => some word
    | none => site.text? "commit.cleanup"
  match word? with
  | none => return usual
  | some "default" => return usual
  | some "verbatim" => return .verbatim
  | some "whitespace" => return .whitespace
  | some "strip" => return .strip
  | some "scissors" =>
    return if isEdited then .strip else .whitespace
  | some other => Job.fatal ("Invalid cleanup mode " ++ other)

/- Where a message comes from, in the words of its own program. -/
def kindOf (arguments : Arguments) (isGiven isTemplate : Bool) :
    Job (List String) := do
  let reused := (arguments.value? "reuse-message").or
    (arguments.value? "reedit-message")
  match reused with
  | some name => return ["commit", name]
  | none =>
    if isTemplate then return ["template"]
    else if isGiven then return ["message"]
    else if (← Job.adminText? "MERGE_MSG").isSome then return ["merge"]
    else if (← Job.adminText? "SQUASH_MSG").isSome then return ["squash"]
    else if arguments.has "amend" then return ["commit", headName]
    else return []

/- The message for a commit, as those who make it want it. -/
def agreedMessage (arguments : Arguments) (given? : Option String)
    (draft : Draft) : Job String := do
  let site := (← get).site
  let (start, isTemplate) ← startMessage arguments given?
  let signed :=
    if arguments.has "signoff" then
      tidy .whitespace start ++ "\nSigned-off-by: "
        ++ (site.valueOf? "GIT_COMMITTER_NAME").getD "" ++ " <"
        ++ (site.valueOf? "GIT_COMMITTER_EMAIL").getD "" ++ ">\n"
    else start
  let file := (site.admin ++ [messageFile]).toPath
  Job.writeAdmin messageFile signed
  let kind ← kindOf arguments given?.isSome isTemplate
  if !(← runHookWith "prepare-commit-msg" (file :: kind) draft.file "") then
    Job.fail 1 ""
  let prepared := (← Job.adminText? messageFile).getD ""
  let isEdited :=
    if arguments.hasNo "edit" then false
    else arguments.has "edit" || given?.isNone
      || (arguments.value? "reedit-message").isSome
  if isEdited then
    Job.writeAdmin messageFile (← edited prepared)
  if !arguments.has "no-verify" then
    if !(← runHookWith "commit-msg" [file] draft.file "") then
      Job.fail 1 ""
  let cleanup ← cleanupFor arguments isEdited
  let message := tidy cleanup ((← Job.adminText? messageFile).getD "")
  if !arguments.has "allow-empty-message" then
    if message.toList.all (fun c => c.isWhitespace) then
      Job.fail 1 "Aborting commit due to empty commit message."
    if isTemplate && message == tidy .strip start then
      Job.fail 1 "Aborting commit; you did not edit the message."
  return message

/- Whether it is only to be seen what would be done. -/
def isTrial (arguments : Arguments) : Bool :=
  arguments.hasAny ["dry-run", "short", "porcelain", "long"]

/- Make a commit that has been prepared. -/
def complete (arguments : Arguments) (given? : Option String)
    (draft : Draft) : Job Int := do
  let desk ← get
  let head? := desk.site.head? desk.files
  let last? := head?.bind desk.world.archive.commit?
  let isAmending := arguments.has "amend"
  let mergeHeads := idsIn ((← Job.adminText? "MERGE_HEAD").getD "")
  let isMerge := !mergeHeads.isEmpty
  let base := if isAmending then last?.bind fun c => c.parents.head?
    else head?
  let wasMerge := isAmending && last?.any fun c => 1 < c.parents.length
  if isTrial arguments then
    let isEmpty := Snapshot.same desk.index.snapshot
      (Site.filesOf desk.world base)
    return if isEmpty then 1 else 0
  checkPeople
  if !arguments.has "no-verify" then
    if !(← runHookWith "pre-commit" [] draft.file "") then return 1
    reloadFrom draft.file
  let now ← get
  let wanted := now.index
  let isEmpty := Snapshot.same wanted.snapshot
    (Site.filesOf now.world base)
  if isEmpty && !isMerge && !arguments.has "allow-empty" && !wasMerge then
    discard <| startMessage arguments given?
    Job.say (nothing desk)
    return 1
  let message ← agreedMessage arguments given? draft
  checkUnsigned arguments
  let parents :=
    if isAmending then (last?.map Commit.parents).getD []
    else head?.toList ++ mergeHeads
  let kind :=
    if isAmending then " (amend)"
    else if head?.isNone then " (initial)"
    else if isMerge then " (merge)"
    else ""
  record parents wanted.snapshot message
    ("commit" ++ kind ++ ": " ++ firstLine message)
  forgetPending
  discardDraft draft
  if draft.file != desk.site.indexFile then
    Job.changeIndex fun index => draft.later?.getD index
    Job.saveIndex
  discard <| runHook "post-commit" []
  match isAmending, head? with
  | true, some old =>
    let new := (desk.site.head? (← Job.files)).getD old
    discard <| runHookWith "post-rewrite" ["amend"] desk.site.indexFile
      (old ++ " " ++ new ++ "\n")
  | _, _ => pure ()
  return 0

/- Make a commit of the index, or of some files. -/
def commit (args : List String) : Job Int := do
  let arguments ← Job.attempt (Arguments.ofTexts rules args)
  let words := arguments.all
  checkOptions arguments words
  let given? ← givenMessage? arguments
  discard <| cleanupFor arguments false
  let draft ← prepared arguments words
  let code ← tryCatch (complete arguments given? draft) fun failure => do
    discardDraft draft
    throw failure
  if code != 0 || isTrial arguments then
    discardDraft draft
  return code

end Committing

end Versions

end Sandbox

end TreeLint
