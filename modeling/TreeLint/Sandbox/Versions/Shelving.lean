import TreeLint.Sandbox.Versions.Navigating

/-
  Commands that put files out of the way.

  Key definitions include:
    * `Shelving.push`
    * `Shelving.takeUp`
    * `Shelving.stash`
    * `Shelving.clean`

  Changes that are not committed are put on a shelf, as
  commits that no branch knows, and are taken up again later.
  Files that nobody tracks are swept out.
-/

------------------------------------------------------------
-- Sweeping
------------------------------------------------------------

namespace TreeLint

namespace Sandbox

namespace Versions

namespace Shelving

/- Which files are swept out. -/
structure Broom where
  /- Directories in which nothing is tracked are swept out too. -/
  isDeep : Bool
  takesIgnored : Bool
  onlyIgnored : Bool
  /- Other work trees inside are swept out too. -/
  takesNested : Bool
  specs : Pathspec
  /- Patterns of files that stay. -/
  spared : List String

/- Whether the index holds something below a path. -/
def holdsBelow (index : Index) (p : Path) : Bool :=
  p.isEmpty || index.any (fun e => e.path.startsWith (p ++ "/"))

/- The path of the directory that a path is in. -/
def above (p : Path) : Path :=
  WorkTree.pathOf (namesOf p).dropLast

/- The paths that a broom sweeps out, and empty directories. -/
def swept (desk : Desk) (broom : Broom) : List Path × List Path :=
  let site := desk.site
  let t := desk.files
  let own := Ignored.rulesOf site t
  let rules : Ignored.Rules :=
    { own with
      inTree := if broom.takesIgnored then [] else own.inTree
      outer := (broom.spared.map (fun text =>
          Ignored.Rule.ofPattern text.toList))
        :: (if broom.takesIgnored then [] else own.outer) }
  let isNested (p : Path) : Bool :=
    t.isDirectoryAt (WorkTree.locationOf site p)
  let isMeant (p : Path) : Bool :=
    Staging.coversFile broom.specs (isNested p) p
  let isNamed (p : Path) : Bool :=
    broom.specs.any fun spec =>
      !spec.pattern.isEmpty && (spec.pattern == p
        || p.startsWith (spec.pattern ++ "/")
        || p.startsWith spec.pattern && spec.pattern.endsWith "/")
  let isIn (p : Path) : Bool :=
    broom.isDeep || holdsBelow desk.index (above p) || isNamed p
  let isWanted (p : Path) : Bool :=
    let ignored := Ignored.isIgnored rules (isNested p) (namesOf p)
    if broom.onlyIgnored then ignored else !ignored
  let isHidden (p : Path) : Bool :=
    desk.index.any (fun e => p.startsWith (e.path ++ "/"))
  let files := (WorkTree.untracked site t desk.index).filter fun p =>
    !isHidden p && isMeant p && isIn p && isWanted p && (broom.takesNested || !isNested p)
  let directories :=
    if broom.onlyIgnored || !broom.isDeep then []
    else
      (WorkTree.directories site t).filter fun p =>
        isMeant p && !holdsBelow desk.index p
          && !Ignored.isIgnored rules true (namesOf p)
  (files, directories)

/- Remove the files that are swept out. -/
def sweep (broom : Broom) : Job Unit := do
  let desk ← get
  let (files, directories) := swept desk broom
  let isKept (p : Path) : Bool := holdsBelow desk.index p
  Job.changeFiles fun t =>
    let t := files.foldl
      (fun t p => t.erase (WorkTree.locationOf desk.site p)) t
    let emptied := (files.map above).filter fun p =>
      !p.isEmpty && !isKept p
    let candidates := ((directories ++ emptied).mergeSort
      (fun a b => b.length ≤ a.length)).eraseDups
    candidates.foldl
      (fun t p =>
        let loc := WorkTree.locationOf desk.site p
        if t.isDirectoryAt loc && t.isEmptyAt loc
            && !loc.isPrefixOf desk.site.call.cwd then
          t.erase loc
        else t)
      t

/- The options of the command. -/
def cleanRules : List String :=
  [ "q|quiet", "n|dry-run", "f|force", "i|interactive", "d",
    "e|exclude=", "x", "X" ]

/- Remove files that nobody tracks. -/
def clean (args : List String) : Job Int := do
  let arguments ← Job.attempt (Arguments.ofTexts cleanRules args)
  let desk ← get
  let isForced := arguments.has "force"
  if !isForced && !arguments.hasAny ["dry-run", "interactive"]
      && desk.site.flag "clean.requireforce" true then
    Job.fatal "clean.requireForce is true and -f not given: refusing to clean"
  if arguments.has "x" && arguments.has "X" then
    Job.fatal "options '-x' and '-X' cannot be used together"
  let specs ← Staging.specsOf arguments.all
  let forces := (arguments.options.filter
    (fun given => given.name == "force")).length
  let broom : Broom :=
    { isDeep := arguments.has "d"
      takesIgnored := arguments.has "x"
      onlyIgnored := arguments.has "X"
      takesNested := 1 < forces
      specs
      spared := arguments.values "exclude" }
  if arguments.hasAny ["dry-run", "interactive"] then
    if arguments.has "dry-run" then
      for p in (swept desk broom).1 do
        Job.say ("Would remove " ++ p)
  else
    sweep broom
  return 0

------------------------------------------------------------
-- The Shelf
------------------------------------------------------------

/- The reference to what was shelved last. -/
def shelfName : String := "refs/stash"

/- What was shelved, the last first. -/
def shelf (desk : Desk) : List Site.Line :=
  if (desk.site.reference? desk.files shelfName).isSome then
    desk.site.log desk.files shelfName
  else []

/- Write the shelf anew. -/
def writeShelf (lines : List Site.Line) : Job Unit := do
  let site := (← get).site
  match lines with
  | [] => Job.changeFiles fun t => site.dropReference t shelfName
  | line :: _ =>
    Job.changeFiles fun t =>
      let t := site.writeTarget t shelfName (.commit line.new)
      let olders := (lines.drop 1).map Site.Line.new ++ [Site.noId]
      let text := String.join
        ((lines.zip olders).reverse.map fun (line, old) =>
          Site.logLine { line with old })
      Site.putDeep t (site.logFile shelfName) (textFile text)

/- What is on the shelf. -/
structure Shelved where
  /- The place on the shelf, if it is there. -/
  place? : Option Nat
  base : Snapshot
  staged : Snapshot
  worked : Snapshot
  loose : Snapshot

/- What a commit holds for the shelf. -/
def ofCommit (world : World) (place? : Option Nat) (c : Commit) :
    Shelved :=
  let filesAt (n : Nat) : Snapshot := Site.filesOf world c.parents[n]?
  ⟨place?, filesAt 0, filesAt 1, c.files, filesAt 2⟩

/- The place that a word names. -/
def placeOf (word : String) : Option Nat :=
  let digits :=
    if word.startsWith "stash@\x7b" && word.endsWith "\x7d" then
      (word.toList.drop 7).dropLast
    else if word.startsWith "refs/stash@\x7b" then
      (word.toList.drop 12).dropLast
    else word.toList
  Numeral.natural? 10 digits

/- What a word names on the shelf. -/
def shelved (word? : Option String) : Job Shelved := do
  let desk ← get
  let lines := shelf desk
  let place? := match word? with
    | none => some 0
    | some "stash" => some 0
    | some word => placeOf word
  let id? := match place?, word? with
    | some n, _ => lines[n]?.map Site.Line.new
    | none, some word => desk.site.commitId? desk.world word
    | none, none => none
  match id?.bind desk.world.archive.commit? with
  | none =>
    if lines.isEmpty && word?.isNone then
      Job.fail 1 "No stash entries found."
    else
      Job.fail 1 ("error: " ++ word?.getD "stash@\x7b0\x7d"
        ++ " is not a valid reference")
  | some c =>
    if c.parents.length < 2 then
      Job.fail 1 ("error: '" ++ word?.getD ""
        ++ "' is not a stash-like commit")
    return ofCommit desk.world place? c

------------------------------------------------------------
-- Putting Aside
------------------------------------------------------------

/- The options for putting changes aside. -/
def pushRules : List String :=
  [ "k|keep-index", "S|staged", "p|patch", "q|quiet",
    "u|include-untracked", "a|all", "m|message=", "pathspec-from-file=",
    "pathspec-file-nul" ]

/- The files of a work tree that its index or the last commit knows. -/
def worked (desk : Desk) (lens : Lens) (isMeant : Path → Bool) :
    Snapshot :=
  let given := desk.headFiles.filterMap fun ((p, _) : Path × Tracked) =>
    if desk.index.holds p || !isMeant p then none
    else (WorkTree.seen? desk.site desk.files lens none p).map (p, ·)
  let known := desk.index.paths.filterMap fun p =>
    (desk.index.entry? p).bind fun e =>
      if isMeant p then
        (WorkTree.now? desk.site desk.files lens e).map (p, ·)
      else
        if e.intended then none else some (p, e.file)
  known ++ given

/- Files that nobody tracks, as a snapshot. -/
def looseFiles (desk : Desk) (lens : Lens) (broom : Broom) : Snapshot :=
  (swept desk broom).1.filterMap fun p =>
    (WorkTree.seen? desk.site desk.files lens none p).map (p, ·)

/-
  Keep what differs from a commit as commits: one for the
  index, one for files that nobody tracks, and one for the
  work tree on top of these.  The outcome is the last of them,
  with its message.
-/
def bundle (head : String) (staged work loose : Snapshot)
    (message? : Option String) : Job (String × String) := do
  let desk ← get
  if desk.index.any Entry.intended then
    Job.fail 1 "Cannot save the current worktree state"
  Committing.checkPeople
  let branch := match desk.site.headName? desk.files with
    | some name => shortName name
    | none => "(no branch)"
  let note := match message? with
    | some message => "On " ++ branch ++ ": " ++ message
    | none => "WIP on " ++ branch
  let stagedId ← Job.makeCommit [head] staged ("index on " ++ branch)
  let looseId ← if loose.isEmpty then pure [] else do
      let id ← Job.makeCommit [] loose ("untracked files on " ++ branch)
      pure [id]
  let id ← Job.makeCommit ([head, stagedId] ++ looseId) work note
  return (id, note)

/-
  Keep all that differs from the last commit, if anything does;
  files that nobody tracks are left alone.
-/
def bundled (message? : Option String) : Job (Option String) := do
  let desk ← get
  match desk.site.head? desk.files with
  | none => Job.fail 1 "You do not have the initial commit yet"
  | some head =>
    if desk.index.any (fun e => e.stage != 0) then
      Job.fail 1 "error: could not write index"
    WorkTree.check true true desk.index.paths
    let lens := desk.lens
    let staged := desk.index.snapshot
    let work := worked desk lens (fun _ => true)
    let isChanged := (Snapshot.paths [desk.headFiles, staged, work]).any
      fun p => desk.headFiles.file? p != staged.file? p
        || desk.headFiles.file? p != work.file? p
    if isChanged then
      let (id, _) ← bundle head staged work [] message?
      return some id
    else
      return none

/- Put changes aside. -/
def push (arguments : Arguments) (words : List String)
    (message? : Option String) : Job Int := do
  let specs ← Staging.specsOf words
  let desk ← get
  let site := desk.site
  let isAll := arguments.has "all"
  let takesLoose := isAll || arguments.has "include-untracked"
  match site.head? desk.files with
  | none => Job.fail 1 "You do not have the initial commit yet"
  | some head =>
    let lens := desk.lens
    let broom : Broom := ⟨true, isAll, false, false, specs, []⟩
    let loose := if takesLoose then looseFiles desk lens broom else []
    let known := desk.index.paths ++ loose.map Prod.fst
    match specs.unmatched? known with
    | some spec =>
      Job.fail 1 ("error: pathspec '" ++ spec.argument
        ++ "' did not match any file(s) known to git")
    | none => pure ()
    if desk.index.any (fun e => e.stage != 0) then
      Job.fail 1 "error: could not write index"
    if !arguments.has "staged" then
      WorkTree.check true true desk.index.paths
    let headFiles := desk.headFiles
    let staged := desk.index.snapshot
    let isMeant (p : Path) : Bool := specs.covers p
    let work :=
      if arguments.has "staged" then staged
      else worked desk lens isMeant
    let isChanged := (Snapshot.paths [headFiles, staged, work]).any fun p =>
      isMeant p && (headFiles.file? p != staged.file? p
        || (!arguments.has "staged" && headFiles.file? p != work.file? p))
    if !isChanged && loose.isEmpty then
      if !arguments.has "quiet" then
        Job.say "No local changes to save"
      return 0
    let (id, note) ← bundle head staged work loose message?
    writeShelf (⟨Site.noId, id, note⟩ :: shelf (← get))
    let target : Snapshot := (Snapshot.paths [headFiles, staged]).filterMap
      fun p =>
        ((if isMeant p then headFiles else staged).file? p).map (p, ·)
    if arguments.has "staged" then
      let now ← get
      let rules := Reconciling.rulesFor desk.world site lens
        ⟨"HEAD", "ancestor", "local"⟩ none false
      let kept := Reconciling.snapshots rules staged
        target (worked now lens (fun _ => true))
      Switching.setIndex target
      Job.changeFiles fun t =>
        (Snapshot.paths [kept.shown, staged]).foldl
          (fun t p =>
            match kept.shown.file? p with
            | some file => WorkTree.layOut site lens t p file
            | none => WorkTree.remove site t p)
          t
    else if words.isEmpty then
      Switching.force target
      Committing.forgetPending
    else
      Job.changeFiles fun t =>
        (Snapshot.paths [headFiles, staged, work]).foldl
          (fun t p =>
            if !isMeant p then t
            else
              match target.file? p with
              | some file => WorkTree.layOut site lens t p file
              | none => WorkTree.remove site t p)
          t
      Switching.setIndex target
    if takesLoose then
      sweep broom
    if arguments.has "keep-index" then
      let kept : Snapshot := staged.filter (fun (p, _) => isMeant p)
      Job.changeFiles fun t =>
        let t := kept.foldl
          (fun t (p, file) => WorkTree.layOut site lens t p file) t
        headFiles.foldl
          (fun t (p, _) =>
            if isMeant p && (staged.file? p).isNone then
              WorkTree.remove site t p
            else t)
          t
      Switching.setIndex staged
    Job.saveIndex
    return 0

------------------------------------------------------------
-- Taking Up
------------------------------------------------------------

/- The index after changes were taken up that were not staged. -/
def unstaged (before : Snapshot) (index : Index) : Index :=
  let new := index.filter fun e => (before.file? e.path).isNone
  let old := before.map fun (p, file) =>
    match index.merged? p with
    | some e => if e.file == file then e else Entry.of p file
    | none => Entry.of p file
  old ++ new

/- Lay files out that nobody tracks; what is there is not replaced. -/
def layOutLoose (lens : Lens) (loose : Snapshot) : Job Unit := do
  let desk ← get
  let (taken, free) := loose.partition fun (p, _) =>
    (WorkTree.nodeAt? desk.site desk.files p).isSome
  Job.changeFiles fun t =>
    free.foldl
      (fun t (p, file) => WorkTree.layOut desk.site lens t p file) t
  if !taken.isEmpty then
    Job.fail 1 "error: could not restore untracked files from stash"

/- Take changes up from the shelf; the outcome is an exit code. -/
def takeUp (s : Shelved) (withIndex : Bool) : Job Int := do
  let desk ← get
  let site := desk.site
  if desk.index.any (fun e => e.stage != 0) then
    Job.fail 1 "error: cannot apply a stash in the middle of a merge"
  let current := desk.index.snapshot
  let staged? ← if withIndex && !Snapshot.same s.base s.staged
        && !Snapshot.same current s.staged then do
      let rules := Reconciling.rulesFor desk.world site
        desk.lens ⟨"HEAD", "ancestor", "stash"⟩ none false
      let joined := Reconciling.snapshots rules s.base current s.staged
      if !joined.isSettled then
        Job.fail 1 "error: conflicts in index. Try without --index."
      pure (some joined.shown)
    else pure none
  let lens := desk.lens
  let labels : Joining.Labels :=
    ⟨if Snapshot.same s.base current then "Version stash was based on"
      else "Updated upstream", "Stash base", "Stashed changes"⟩
  let rules := Reconciling.rulesFor desk.world site lens labels none true
  let joined := Reconciling.snapshots rules s.base current s.worked
  let refused ← Reconciling.carryOut current joined
  if !refused.isEmpty then
    layOutLoose lens s.loose
    Job.fail 1 (Switching.complaint refused "merge")
  if !joined.isSettled then
    Job.saveIndex
    layOutLoose lens s.loose
    return 1
  match staged? with
  | some files => Switching.setIndex files
  | none => Job.changeIndex (unstaged current)
  Job.saveIndex
  layOutLoose lens s.loose
  return 0

/- Take something from the shelf. -/
def dropPlace (n : Nat) : Job Unit := do
  let lines := shelf (← get)
  writeShelf (lines.take n ++ lines.drop (n + 1))

/- Put a commit on the shelf. -/
def store (id note : String) : Job Unit := do
  writeShelf (⟨Site.noId, id, note⟩ :: shelf (← get))

------------------------------------------------------------
-- Putting Aside For A While
------------------------------------------------------------

/- Put changes aside, if there are any, while something is done. -/
def setAside : Job (Option String) := do
  let id? ← bundled (some "autostash")
  if id?.isSome then
    Switching.force (← get).headFiles
    Job.saveIndex
  return id?

/- Take up again what was put aside; conflicts leave it on the shelf. -/
def takeBack (id : String) : Job Unit := do
  let desk ← get
  match desk.world.archive.commit? id with
  | none => pure ()
  | some c =>
    let code ← tryCatch (takeUp (ofCommit desk.world none c) false)
      fun _ => pure 1
    if code != 0 then
      store id "autostash"

/- Put changes aside, or take them up again. -/
def stash (args : List String) : Job Int := do
  match args with
  | "pop" :: rest =>
    let arguments ← Job.attempt (Arguments.ofTexts
      ["q|quiet", "index"] rest)
    let s ← shelved arguments.all.head?
    match s.place? with
    | none =>
      Job.fail 1 ("error: '" ++ arguments.all.head?.getD ""
        ++ "' is not a stash reference")
    | some n =>
      let code ← takeUp s (arguments.has "index")
      if code == 0 then dropPlace n
      return code
  | "apply" :: rest =>
    let arguments ← Job.attempt (Arguments.ofTexts
      ["q|quiet", "index"] rest)
    takeUp (← shelved arguments.all.head?) (arguments.has "index")
  | "drop" :: rest =>
    let arguments ← Job.attempt (Arguments.ofTexts ["q|quiet"] rest)
    match (← shelved arguments.all.head?).place? with
    | some n =>
      dropPlace n
      return 0
    | none => Job.fail 1 "error: not a stash reference"
  | "clear" :: _ =>
    if (shelf (← get)).isEmpty then return 0
    writeShelf []
    return 0
  | "list" :: _ =>
    for (line, n) in (shelf (← get)).zipIdx do
      Job.say ("stash@\x7b" ++ toString n ++ "\x7d: " ++ line.message)
    return 0
  | "show" :: rest =>
    let words := rest.filter (fun word => !word.startsWith "-")
    discard <| shelved words.head?
    return 0
  | "branch" :: name :: rest =>
    let s ← shelved rest.head?
    let desk ← get
    let line? := (shelf desk)[s.place?.getD 0]?
    let base? := (line?.bind fun line =>
      desk.world.archive.commit? line.new).bind fun c => c.parents.head?
    match base? with
    | none => Job.fail 1 "No stash entries found."
    | some base =>
      let code ← Navigating.checkout ["-q", "-b", name, base]
      if code != 0 then return code
      let code ← takeUp s true
      if code == 0 then dropPlace (s.place?.getD 0)
      return code
  | "create" :: rest =>
    let id? ← bundled
      (if rest.isEmpty then none else some (Text.joinWith " " rest))
    match id? with
    | some id => Job.say id
    | none => pure ()
    return 0
  | "store" :: rest =>
    let arguments ← Job.attempt (Arguments.ofTexts
      ["q|quiet", "m|message="] rest)
    let desk ← get
    match arguments.all with
    | [word] =>
      match desk.site.commitId? desk.world word with
      | some id =>
        let c? := desk.world.archive.commit? id
        if c?.any (fun c => c.parents.length < 2) then
          Job.fail 1 ("error: '" ++ word ++ "' is not a stash-like commit")
        store id ((arguments.value? "message").getD
          "Created via \"git stash store\".")
        return 0
      | none => Job.fail 1 ("Cannot update refs/stash with " ++ word)
    | _ => Job.fail 1 "\"git stash store\" requires one <commit> argument"
  | "push" :: rest =>
    let arguments ← Job.attempt (Arguments.ofTexts pushRules rest)
    push arguments arguments.all (arguments.value? "message")
  | "save" :: rest =>
    let arguments ← Job.attempt (Arguments.ofTexts pushRules rest)
    push arguments []
      (if arguments.all.isEmpty then arguments.value? "message"
        else some (Text.joinWith " " arguments.all))
  | args =>
    match args.head? with
    | none => pure ()
    | some word =>
      if !word.startsWith "-" then
        Job.fatal ("subcommand wasn't specified; 'push' can't be"
          ++ " assumed due to unexpected token '" ++ word ++ "'")
    let arguments ← Job.attempt (Arguments.ofTexts pushRules args)
    if !arguments.words.isEmpty then
      Job.fatal "subcommand wasn't specified; 'push' can't be assumed"
    push arguments arguments.all (arguments.value? "message")

end Shelving

end Versions

end Sandbox

end TreeLint
