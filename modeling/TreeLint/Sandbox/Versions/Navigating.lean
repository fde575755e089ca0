import TreeLint.Sandbox.Versions.Naming
import TreeLint.Sandbox.Versions.Reconciling

/-
  Commands that go from commit to commit.

  Key definitions include:
    * `Navigating.goTo`
    * `Navigating.bringBack`
    * `Navigating.checkout`
    * `Navigating.switch`
    * `Navigating.restore`
    * `Navigating.reset`

  The head goes to another branch or commit and takes the work
  tree with it, or single files are brought back, or the
  branch itself goes to another commit.
-/

------------------------------------------------------------
-- Going To A Branch
------------------------------------------------------------

namespace TreeLint

namespace Sandbox

namespace Versions

namespace Navigating

/- Where the head is to go. -/
structure Goal where
  /- The goal as it was written. -/
  word : String
  id : String
  /- The full name of a branch, if the goal is one. -/
  branch? : Option String

/- How the head goes there. -/
structure Manner where
  isForced : Bool
  joins : Bool
  isDetached : Bool
  /- A new branch for the head, and whether it may exist. -/
  new? : Option (String × Bool)
  tracks : Option Bool
  ignoresOthers : Bool

/- The name of the place where the head is. -/
def whereabouts (site : Site) (t : FileTree) : String :=
  match site.headName? t with
  | some name => shortName name
  | none => (site.head? t).getD headName

/- The goal that a word names. -/
def goal? (desk : Desk) (word : String) : Option Goal :=
  let site := desk.site
  let t := desk.files
  let back (n : Nat) : Option String := site.switched? t n
  let named := if word == "-" then back 1
    else if word.startsWith "@\x7b-" && word.endsWith "\x7d" then
      (Numeral.natural? 10
        ((word.toList.drop 3).dropLast)).bind back
    else some word
  named.bind fun name =>
    let full := branchStart ++ name
    match site.reference? t full with
    | some id => some ⟨name, id, some full⟩
    | none => (site.commitId? desk.world name).map (⟨name, ·, none⟩)

/-
  Put the changes of the work tree on top of another snapshot.
  The outcome says that there was no conflict.
-/
def joinOnto (old new : Snapshot) (label : String) : Job Bool := do
  let desk ← get
  let lens := desk.lens
  let own : Snapshot := desk.index.paths.filterMap fun p =>
    (desk.index.entry? p).bind fun e =>
      (WorkTree.now? desk.site desk.files lens e).map (p, ·)
  let rules := Reconciling.rulesFor desk.world desk.site lens
    ⟨label, "ancestor", "local"⟩ none true
  let joined := Reconciling.snapshots rules old new own
  Switching.force new
  let paths := joined.conflicts.map Entry.path
  Job.changeFiles fun t =>
    let t := joined.shown.foldl
      (fun t (p, file) =>
        if new.file? p == some file then t
        else WorkTree.layOut desk.site lens t p file)
      t
    new.foldl
      (fun t (p, _) =>
        if (joined.shown.file? p).isNone then WorkTree.remove desk.site t p
        else t)
      t
  Job.changeIndex fun index =>
    joined.conflicts ++ index.filter (fun e => !paths.contains e.path)
  return paths.isEmpty

/- Bring the files of the work tree to those of a commit. -/
def takeFiles (manner : Manner) (new : Snapshot) (label : String) :
    Job Int := do
  let desk ← get
  if manner.isForced then
    Switching.force new
    return 0
  if desk.index.any (fun e => e.stage != 0) then
    Job.fail 1 ("error: you need to resolve your current index first")
  let isInitial := (desk.files.node? desk.site.indexFile).isNone
  let refused ← Switching.between isInitial desk.headFiles new
  if refused.isEmpty then return 0
  if manner.joins then
    let staged := desk.index.snapshot
    if !Snapshot.same staged desk.headFiles then
      Job.fatal ("cannot continue with staged changes in the following "
        ++ "files:\n")
    discard <| joinOnto desk.headFiles new label
    return 0
  Job.fail 1 (Switching.complaint refused "checkout")

/- Go to a branch or a commit. -/
def goTo (manner : Manner) (goal : Goal) : Job Int := do
  let desk ← get
  let site := desk.site
  let t := desk.files
  let before := whereabouts site t
  let old := (site.head? t).getD Site.noId
  match manner.new? with
  | some (name, mayExist) =>
    if !isGoodBranch name then
      Job.fatal ("'" ++ name ++ "' is not a valid branch name")
    let full := branchStart ++ name
    if (site.reference? t full).isSome then
      if !mayExist then
        Job.fatal ("a branch named '" ++ name ++ "' already exists")
      if Naming.isUsedElsewhere site t full then
        Job.fatal ("cannot force update the branch '" ++ name ++ "'")
    if !site.canWrite t full && (site.reference? t full).isNone then
      Job.fatal ("cannot lock ref '" ++ full ++ "': unable to create it")
  | none =>
    match goal.branch? with
    | some full =>
      if !manner.isDetached && !manner.ignoresOthers
          && site.headName? t != some full
          && Naming.isUsedElsewhere site t full then
        Job.fatal ("'" ++ goal.word ++ "' is already used by worktree")
    | none => pure ()
  let code ← takeFiles manner
    (Site.filesOf desk.world (some goal.id)) goal.word
  Job.saveIndex
  let note (name : String) : String :=
    "checkout: moving from " ++ before ++ " to " ++ name
  match manner.new?, goal.branch? with
  | some (name, _), _ =>
    let full := branchStart ++ name
    Job.changeFiles fun t =>
      let t := site.setReference t full goal.id
        ("branch: Created from " ++ goal.word)
      site.setHead t (.other full) (note name)
    match site.named? t goal.word with
    | some origin =>
      let isRemote := origin.startsWith "refs/remotes/"
      if manner.tracks.getD
          (isRemote && site.flag "branch.autosetupmerge" true) then
        Naming.follow name origin
    | none => pure ()
  | none, some full =>
    if manner.isDetached then
      Job.changeFiles fun t =>
        site.setHead t (.commit goal.id) (note goal.word)
    else
      Job.changeFiles fun t =>
        site.setHead t (.other full) (note goal.word)
  | none, none =>
    if goal.word != headName || manner.isDetached then
      Job.changeFiles fun t =>
        site.setHead t (.commit goal.id) (note goal.word)
  Committing.forgetPending
  let isFine ← Committing.runHook "post-checkout" [old, goal.id, "1"]
  return if isFine then code else 1

/- Start a branch without commits. -/
def startOrphan (name : String) (start? : Option Goal)
    (manner : Manner) (keepsFiles : Bool) : Job Int := do
  let desk ← get
  let site := desk.site
  if !isGoodBranch name then
    Job.fatal ("'" ++ name ++ "' is not a valid branch name")
  if (site.reference? desk.files (branchStart ++ name)).isSome then
    Job.fatal ("a branch named '" ++ name ++ "' already exists")
  match start? with
  | some goal =>
    discard <| takeFiles manner
      (Site.filesOf desk.world (some goal.id)) goal.word
  | none =>
    if !keepsFiles then
      discard <| takeFiles manner [] name
  Job.saveIndex
  Job.changeFiles fun t =>
    site.writeTarget t headName (.other (branchStart ++ name))
  Committing.forgetPending
  return 0

------------------------------------------------------------
-- Bringing Files Back
------------------------------------------------------------

/- Which version of a conflict is wanted. -/
inductive Side where
  | ours
  | theirs
deriving DecidableEq

/- How files are brought back. -/
structure Return where
  /- The files come from a snapshot and not from the index. -/
  source? : Option Snapshot
  toIndex : Bool
  toTree : Bool
  /- Files that the source does not have stay. -/
  overlays : Bool
  isForced : Bool
  side? : Option Side
  joins : Bool
  /- Which versions are shown in a conflict. -/
  display? : Option Joining.Display
  /- Files that are not wanted in the work tree come back, too. -/
  takesSkipped : Bool

/- The complaint about an argument that fits nothing. -/
def unmatched {α : Type} (spec : Spec) : Job α :=
  Job.fail 1 ("error: pathspec '" ++ spec.argument
    ++ "' did not match any file(s) known to git")

/- Lay a file out that is not there as it should be. -/
def layOutEntry (lens : Lens) (e : Entry) : Job Unit := do
  let desk ← get
  let isThere := (WorkTree.nodeAt? desk.site desk.files e.path).isSome
    && WorkTree.seen? desk.site desk.files lens (some e) e.path
      == some e.file
  if !isThere then
    Job.changeFiles fun t =>
      WorkTree.layOut desk.site lens t e.path e.file
    Job.changeIndex fun index => index.map fun other =>
      if other.path == e.path && other.stage == 0 then
        WorkTree.worn desk.site
          (WorkTree.layOut desk.site lens desk.files e.path e.file) other
      else other

/- The conflict of a path, put together again. -/
def rejoined (desk : Desk) (lens : Lens)
    (display? : Option Joining.Display) (p : Path) : Option Tracked :=
  match desk.index.staged? p 2, desk.index.staged? p 3 with
  | some ours, some theirs =>
    let rules := Reconciling.rulesFor desk.world desk.site lens
      ⟨"ours", "base", "theirs"⟩ none false
    let manner := rules.manner p
    some (Joining.files
      { manner with display := display?.getD manner.display }
      ((desk.index.staged? p 1).map Entry.file) ours.file theirs.file).1
  | _, _ => none

/- Bring back files from the index. -/
def bringFromIndex (how : Return) (specs : Pathspec) : Job Int := do
  let desk ← get
  let lens := desk.lens
  let known := desk.index.paths.filter fun p =>
    how.takesSkipped || !(desk.index.entry? p).any Entry.skipped
  let paths := known.filter specs.covers
  match specs.unmatched? known with
  | some spec => unmatched spec
  | none => pure ()
  let conflicts := paths.filter desk.index.conflicts.contains
  if how.side?.isNone && !how.isForced && !how.joins then
    match conflicts.head? with
    | some p => Job.fail 1 ("error: path '" ++ p ++ "' is unmerged")
    | none => pure ()
  let stage := match how.side? with
    | some .ours => 2
    | some .theirs => 3
    | none => 0
  for p in conflicts do
    if stage != 0 && (desk.index.staged? p stage).isNone then
      Job.fail 1 ("error: path '" ++ p ++ "' does not have "
        ++ (if stage == 2 then "our" else "their") ++ " version")
    if how.joins && (rejoined desk lens how.display? p).isNone then
      Job.fail 1 ("error: path '" ++ p
        ++ "' does not have all necessary versions")
  for p in paths do
    match desk.index.merged? p with
    | some e => layOutEntry lens e
    | none =>
      let file? := if how.joins then rejoined desk lens how.display? p
        else (desk.index.staged? p stage).map Entry.file
      match file? with
      | some file =>
        Job.changeFiles fun t => WorkTree.layOut desk.site lens t p file
      | none => pure ()
  Job.saveIndex
  return 0

/- Bring back files from a snapshot. -/
def bringFromSource (how : Return) (source : Snapshot)
    (specs : Pathspec) : Job Int := do
  let desk ← get
  let tracked := desk.index.paths.filter fun p =>
    how.takesSkipped || !(desk.index.entry? p).any Entry.skipped
  let isLeft (entry : Path × Tracked) : Bool :=
    !how.takesSkipped && (desk.index.merged? entry.1).any fun e =>
      e.skipped && e.file == entry.2
  let source : Snapshot := source.filter (fun entry => !isLeft entry)
  let known := if how.overlays then source.map Prod.fst
    else source.map Prod.fst ++ tracked
  match specs.unmatched? known with
  | some spec => unmatched spec
  | none => pure ()
  let wanted := source.filter fun (p, _) => specs.covers p
  let gone := if how.overlays then []
    else tracked.filter fun p =>
      specs.covers p && (source.file? p).isNone
  let lens := desk.lens
  if how.toTree then
    match wanted.findSome? (fun (p, file) =>
        Switching.fault? lens p (.take file)) with
    | some text => Job.fatal text
    | none => pure ()
    Job.changeFiles fun t =>
      let t := gone.foldl (fun t p => WorkTree.remove desk.site t p) t
      wanted.foldl
        (fun t (p, file) =>
          let kept := { Entry.of p file with
            worn := (desk.index.merged? p).bind fun e =>
              if e.file == file then e.worn else none }
          if WorkTree.seen? desk.site t lens (some kept) p == some file
          then t
          else WorkTree.layOut desk.site lens t p file)
        t
  if how.toIndex then
    let t ← Job.files
    Job.changeIndex fun index =>
      let index := gone.foldl Index.drop index
      wanted.foldl
        (fun index (p, file) =>
          match index.merged? p with
          | some e =>
            if e.file == file then index.put { e with intended := false }
            else if how.toTree then
              index.put (WorkTree.worn desk.site t (Entry.of p file))
            else index.put (Entry.of p file)
          | none =>
            index.put (if how.toTree then
                WorkTree.worn desk.site t (Entry.of p file)
              else Entry.of p file))
        index
  Job.saveIndex
  return 0

/- Bring back files. -/
def bringBack (how : Return) (words : List String) : Job Int := do
  let specs ← Staging.specsOf words
  match how.source? with
  | some source => bringFromSource how source specs
  | none => bringFromIndex how specs

------------------------------------------------------------
-- Checking Out
------------------------------------------------------------

/- The options of the command. -/
def checkoutRules : List String :=
  [ "q|quiet", "b=", "B=", "l", "guess", "overlay", "d|detach", "f|force",
    "m|merge", "t|track?", "orphan=", "2|ours", "3|theirs", "p|patch",
    "ignore-skip-worktree-bits", "progress", "recurse-submodules?",
    "overwrite-ignore", "ignore-other-worktrees", "conflict=",
    "pathspec-from-file=", "pathspec-file-nul" ]

/- The remote branch of a name that only one remote has. -/
def remoteBranch? (site : Site) (t : FileTree) (name : String) :
    Option String :=
  let found := (site.references t "refs/remotes/").filter fun full =>
    match Text.splitAt '/' (without "refs/remotes/" full) with
    | _ :: rest => Text.joinWith "/" rest == name
    | [] => false
  match found with
  | [full] => some (without referenceStart full)
  | _ => none

/- Whether there is a file of a name. -/
def isFileName (desk : Desk) (word : String) : Bool :=
  (desk.files.locateEntry desk.site.call.cwd word).toOption.isSome

/- How options say that the head is to go. -/
def mannerOf (arguments : Arguments) (new? : Option (String × Bool)) :
    Manner where
  isForced := arguments.hasAny ["force", "discard-changes"]
  joins := arguments.has "merge"
  isDetached := arguments.has "detach"
  new?
  tracks := (arguments.last? "track").map (fun given => !given.isNegated)
  ignoresOthers := arguments.has "ignore-other-worktrees"

/- How options say that files are to be brought back. -/
def returnOf (arguments : Arguments) (source? : Option Snapshot) :
    Return where
  source?
  toIndex := source?.isSome
  toTree := true
  overlays := !arguments.hasNo "overlay"
  isForced := arguments.hasAny ["force", "ignore-unmerged"]
  side? :=
    if arguments.has "ours" then some .ours
    else if arguments.has "theirs" then some .theirs
    else none
  joins := arguments.has "merge"
    || (arguments.value? "conflict").isSome
  takesSkipped := arguments.has "ignore-skip-worktree-bits"
  display? := (arguments.value? "conflict").bind Reconciling.displayOf?

/- The name of a new branch that follows a remote one. -/
def trackedName (word : String) : Job (String × Bool) :=
  let word := without "remotes/" (without referenceStart word)
  match Text.splitAt '/' word with
  | _ :: rest =>
    let name := Text.joinWith "/" rest
    if name.isEmpty then Job.fatal "missing branch name; try -b"
    else pure (name, false)
  | [] => Job.fatal "missing branch name; try -b"

/- Go to a goal, or to a new branch on a branch without commits. -/
def goOrStart (manner : Manner) (word? : Option String) : Job Int := do
  let desk ← get
  let site := desk.site
  match goal? desk (word?.getD headName), manner.new? with
  | some goal, _ => goTo manner goal
  | none, some (name, _) =>
    if word?.isSome then
      Job.fatal ("'" ++ word?.getD "" ++ "' is not a commit and a branch '"
        ++ name ++ "' cannot be created from it")
    if !isGoodBranch name then
      Job.fatal ("'" ++ name ++ "' is not a valid branch name")
    Job.changeFiles fun t =>
      site.writeTarget t headName (.other (branchStart ++ name))
    return 0
  | none, none =>
    if word?.isSome then
      Job.fatal ("invalid reference: " ++ word?.getD "")
    else if manner.isDetached then
      Job.fatal "You are on a branch yet to be born"
    else
      Job.fatal "You are on a branch yet to be born"

/- Check how conflicts are to be shown. -/
def checkDisplay (arguments : Arguments) : Job Unit :=
  match arguments.value? "conflict" with
  | some word =>
    if (Reconciling.displayOf? word).isNone then
      Job.fatal ("unknown style '" ++ word
        ++ "' given for 'merge.conflictstyle'")
    else pure ()
  | none => pure ()

/- Go to another branch or commit, or bring files back. -/
def checkout (args : List String) : Job Int := do
  let arguments ← Job.attempt (Arguments.ofTexts checkoutRules args)
  checkDisplay arguments
  let desk ← get
  let site := desk.site
  let new? := match arguments.value? "b", arguments.value? "B" with
    | some name, _ => some (name, false)
    | none, some name => some (name, true)
    | none, none => none
  if (arguments.value? "b").isSome && (arguments.value? "B").isSome then
    Job.fatal "options '-b', '-B', and '--orphan' cannot be used together"
  let orphan? := arguments.value? "orphan"
  let new? ← match arguments.words with
    | word :: _ =>
      if (arguments.last? "track").any (fun given => !given.isNegated)
          && new?.isNone && orphan?.isNone then
        (trackedName word).map some
      else pure new?
    | [] => pure new?
  let manner := mannerOf arguments new?
  let goWith (word? : Option String) : Job Int :=
    match orphan? with
    | some name => startOrphan name (word?.bind (goal? desk)) manner true
    | none => goOrStart manner word?
  let cannot {α : Type} : Job α :=
    Job.fatal ("Cannot update paths and switch to branch '"
      ++ ((new?.map Prod.fst).getD "") ++ "' at the same time.")
  let bringWith (source? : Option Snapshot) (paths : List String) :
      Job Int := do
    if new?.isSome || orphan?.isSome then cannot
    if arguments.has "detach" then
      Job.fatal "'--detach' cannot be used with updating paths"
    bringBack (returnOf arguments source?) paths
  if arguments.has "patch" then
    return 0
  match arguments.words, arguments.behind? with
  | [], some [] => goWith none
  | [], some paths => bringWith none paths
  | [word], some [] =>
    match goal? desk word with
    | some _ => goWith (some word)
    | none => Job.fatal ("invalid reference: " ++ word)
  | [word], some paths =>
    match site.tree? desk.world
        (((goal? desk word).map Goal.id).getD word) with
    | some files => bringWith (some files) paths
    | none => Job.fatal ("invalid reference: " ++ word)
  | _ :: _ :: _, some _ =>
    Job.fatal "only one reference expected"
  | [], none =>
    if manner.tracks == some true && new?.isNone && orphan?.isNone then
      Job.fatal "--track needs a branch name"
    goWith none
  | word :: rest, none =>
    match goal? desk word, rest with
    | some _, [] => goWith (some word)
    | some goal, paths =>
      if isFileName desk word then
        Job.fatal ("ambiguous argument '" ++ word
          ++ "': both revision and filename")
      bringWith (some (Site.filesOf desk.world (some goal.id))) paths
    | none, paths =>
      match site.tree? desk.world word, paths with
      | some files, _ :: _ => bringWith (some files) paths
      | some _, [] =>
        Job.fatal ("Cannot switch branch to a non-commit '" ++ word ++ "'")
      | none, _ =>
        if (site.revision? desk.world word).isSome then
          Job.fatal ("reference is not a tree: " ++ word)
        let isGuessed := paths.isEmpty && !arguments.hasNo "guess"
          && site.flag "checkout.guess" true
        match (if isGuessed then remoteBranch? site desk.files word
            else none) with
        | some remote =>
          if isFileName desk word then
            Job.fatal ("'" ++ word
              ++ "' could be both a local file and a tracking branch.")
          goOrStart
            { manner with
              new? := some (word, false)
              tracks := some true }
            (some remote)
        | none =>
          if new?.isSome then
            Job.fatal ("'" ++ word ++ "' is not a commit and a branch '"
              ++ ((new?.map Prod.fst).getD "")
              ++ "' cannot be created from it")
          bringWith none (word :: paths)

------------------------------------------------------------
-- Switching
------------------------------------------------------------

/- The options of the command. -/
def switchRules : List String :=
  [ "c|create=", "C|force-create=", "guess", "discard-changes", "q|quiet",
    "recurse-submodules?", "progress", "m|merge", "conflict=", "d|detach",
    "t|track?", "f|force", "orphan=", "overwrite-ignore",
    "ignore-other-worktrees" ]

/- Go to another branch. -/
def switch (args : List String) : Job Int := do
  let arguments ← Job.attempt (Arguments.ofTexts switchRules args)
  let desk ← get
  let site := desk.site
  let new? := match arguments.value? "create",
      arguments.value? "force-create" with
    | some name, _ => some (name, false)
    | none, some name => some (name, true)
    | none, none => none
  let manner := mannerOf arguments new?
  let isPending := ["MERGE_HEAD", "CHERRY_PICK_HEAD", "REVERT_HEAD"].any
    fun name => (desk.files.node? (site.admin ++ [name])).isSome
  if isPending then
    Job.fatal "cannot switch branch while merging"
  match arguments.value? "orphan", arguments.all with
  | some name, [] => startOrphan name none manner false
  | some _, _ => Job.fatal "'--orphan' cannot take <start-point>"
  | none, [] =>
    if new?.isNone && !arguments.has "detach" then
      Job.fatal "missing branch or commit argument"
    goOrStart manner none
  | none, [word] =>
    match goal? desk word with
    | some goal =>
      if new?.isNone && !arguments.has "detach" && goal.branch?.isNone then
        Job.fatal ("a branch is expected, got '" ++ word ++ "'")
      goOrStart manner (some word)
    | none =>
      let isGuessed := new?.isNone && !arguments.hasNo "guess"
        && site.flag "checkout.guess" true
      match (if isGuessed then remoteBranch? site desk.files word
          else none) with
      | some remote =>
        goOrStart
          { manner with
            new? := some (word, false)
            tracks := some true }
          (some remote)
      | none => Job.fatal ("invalid reference: " ++ word)
  | none, _ => Job.fatal "only one reference expected"

------------------------------------------------------------
-- Restoring
------------------------------------------------------------

/- The options of the command. -/
def restoreRules : List String :=
  [ "s|source=", "S|staged", "W|worktree", "ignore-unmerged", "overlay",
    "q|quiet", "recurse-submodules?", "progress", "m|merge", "conflict=",
    "2|ours", "3|theirs", "p|patch", "ignore-skip-worktree-bits",
    "pathspec-from-file=", "pathspec-file-nul" ]

/- Bring files back. -/
def restore (args : List String) : Job Int := do
  let arguments ← Job.attempt (Arguments.ofTexts restoreRules args)
  checkDisplay arguments
  let desk ← get
  let words := arguments.all
  if arguments.has "patch" then return 0
  if words.isEmpty then
    Job.fatal "you must specify path(s) to restore"
  let isStaged := arguments.has "staged"
  let toTree := !isStaged || arguments.has "worktree"
  let source? ← match arguments.value? "source", isStaged with
    | some name, _ =>
      match desk.site.tree? desk.world
          (((goal? desk name).map Goal.id).getD name) with
      | some files => pure (some files)
      | none => Job.fatal ("could not resolve " ++ name)
    | none, true =>
      match desk.site.head? desk.files with
      | some id => pure (some (Site.filesOf desk.world (some id)))
      | none => Job.fatal "could not resolve HEAD"
    | none, false => pure none
  bringBack
    { returnOf arguments source? with
      toIndex := isStaged
      toTree
      overlays := arguments.has "overlay" }
    words

------------------------------------------------------------
-- Resetting
------------------------------------------------------------

/- The options of the command. -/
def resetRules : List String :=
  [ "q|quiet", "refresh", "mixed", "soft", "hard", "merge", "keep",
    "recurse-submodules?", "p|patch", "N|intent-to-add",
    "pathspec-from-file=", "pathspec-file-nul" ]

/- What goes back with the branch. -/
inductive Extent where
  | soft
  | mixed
  | hard
  | merge
  | keep
deriving DecidableEq

namespace Extent

/- The extent that the last of some options asks for. -/
def of? (arguments : Arguments) : Option Extent :=
  arguments.options.reverse.findSome? fun given =>
    if given.name == "soft" then some soft
    else if given.name == "mixed" then some mixed
    else if given.name == "hard" then some hard
    else if given.name == "merge" then some merge
    else if given.name == "keep" then some keep
    else none

end Extent

/- Take files of a snapshot over into the index. -/
def takeIndex (source : Snapshot) (isIntended : Bool)
    (covers : Path → Bool) : Job Unit :=
  Job.changeIndex fun index =>
    let paths := (Snapshot.paths
      [source, index.map fun e => (e.path, e.file)]).filter covers
    paths.foldl
      (fun index p =>
        match source.file? p, index.merged? p with
        | some file, some e =>
          if e.file == file then index.put { e with intended := false }
          else index.put { Entry.of p file with skipped := e.skipped }
        | some file, none => index.put (Entry.of p file)
        | none, _ =>
          if isIntended && index.holds p then
            index.put { Entry.of p (.file [] false) with intended := true }
          else index.drop p)
      index

/- Let the branch go to a commit. -/
def resetTo (extent : Extent) (isIntended : Bool) (word : String)
    (id? : Option String) : Job Int := do
  let desk ← get
  let site := desk.site
  let new := Site.filesOf desk.world id?
  let isUnmerged := desk.index.any (fun e => e.stage != 0)
  let couldNot {α : Type} : Job α :=
    Job.fatal ("Could not reset index file to revision '" ++ word ++ "'.")
  match extent with
  | .soft =>
    let isMerging := (desk.files.node?
      (site.admin ++ ["MERGE_HEAD"])).isSome
    if isUnmerged || isMerging then
      Job.fatal "Cannot do a soft reset in the middle of a merge."
  | .mixed =>
    takeIndex new isIntended (fun _ => true)
    if site.top?.isSome then WorkTree.learn
  | .hard => Switching.force new
  | .merge =>
    if !(← Switching.toClean new).isEmpty then couldNot
  | .keep =>
    if isUnmerged then
      Job.fatal "Cannot do a keep reset in the middle of a merge."
    if !(← Switching.between false desk.headFiles new).isEmpty then
      couldNot
    Switching.setIndex new
  if extent != .soft then
    Job.saveIndex
  match id? with
  | some id =>
    match site.head? desk.files with
    | some old => Job.writeAdmin "ORIG_HEAD" (old ++ "\n")
    | none => Job.removeAdmin "ORIG_HEAD"
    Job.changeFiles fun t =>
      site.setReference t headName id ("reset: moving to " ++ word)
  | none => pure ()
  Committing.forgetPending
  return 0

/- Go back to a commit with the branch, or with single files. -/
def reset (args : List String) : Job Int := do
  let arguments ← Job.attempt (Arguments.ofTexts resetRules args)
  let desk ← get
  let site := desk.site
  if arguments.has "patch" then return 0
  let resolves (word : String) : Bool :=
    (site.tree? desk.world word).isSome
  let isCommit (word : String) : Bool :=
    (site.commitId? desk.world word).isSome
  let (word, paths) ← match arguments.words, arguments.behind? with
    | [], some paths => pure (headName, paths)
    | [word], some paths => pure (word, paths)
    | word :: others, some paths => pure (word, others ++ paths)
    | [], none => pure (headName, [])
    | word :: rest, none =>
      if (rest.isEmpty && isCommit word)
          || (!rest.isEmpty && resolves word) then
        if isFileName desk word then
          Job.fatal ("ambiguous argument '" ++ word
            ++ "': both revision and filename")
        pure (word, rest)
      else if (word :: rest).take 1 |>.all (fun w =>
          isFileName desk w || w.startsWith ":"
            || (RawByte.encode w).any Wildcard.isSpecial) then
        pure (headName, word :: rest)
      else
        Job.fatal ("ambiguous argument '" ++ word
          ++ "': unknown revision or path not in the working tree.")
  let isUnborn := word == headName && (site.head? desk.files).isNone
  let extent? := Extent.of? arguments
  let isIntended := arguments.has "intent-to-add"
  if isIntended && extent?.any (fun extent => extent != .mixed) then
    Job.fatal "the option '-N' requires '--mixed'"
  if paths.isEmpty then
    if !isUnborn && !isCommit word then
      Job.fatal ("Failed to resolve '" ++ word ++ "' as a valid revision.")
    resetTo (extent?.getD .mixed) isIntended word (site.commitId? desk.world word)
  else
    match extent? with
    | none => pure ()
    | some .mixed => pure ()
    | some _ => Job.fatal "Cannot do such a reset with paths."
    match (if isUnborn then some [] else site.tree? desk.world word) with
    | none =>
      Job.fatal ("Failed to resolve '" ++ word ++ "' as a valid tree.")
    | some files =>
      let specs ← Staging.specsOf paths
      takeIndex files isIntended specs.covers
      Job.saveIndex
      return 0

end Navigating

end Versions

end Sandbox

end TreeLint
