import TreeLint.Sandbox.Versions.Arguments
import TreeLint.Sandbox.Versions.Differences
import TreeLint.Sandbox.Versions.Switching

/-
  Commands that change the index.

  Key definitions include:
    * `Staging.refresh`
    * `Staging.add`
    * `Staging.remove`
    * `Staging.move`

  The index takes files over from the work tree, gives them
  up, or keeps them under another name.  A command that cannot
  do all that it is asked for mostly does nothing.
-/

------------------------------------------------------------
-- Taking Files Over
------------------------------------------------------------

namespace TreeLint

namespace Sandbox

namespace Versions

namespace Staging

/- The specifications that the words of a command give. -/
def specsOf (words : List String) : Job Pathspec := do
  let desk ← get
  Job.attempt (Pathspec.parse desk.site desk.files words)

/- A path of the index, brought up to date with the work tree. -/
def refreshPath (site : Site) (t : FileTree) (lens : Lens)
    (keepsOld keepsGone : Bool) (index : Index) (p : Path) : Index :=
  match index.entry? p with
  | none => index
  | some e =>
    if e.isFixed then index
    else
      let known := if lens.spares then e else { e with worn := none }
      match WorkTree.entryFor? site t lens (some known) p with
      | some entry =>
        if keepsOld && e.stage == 0 then index else index.put entry
      | none => if keepsGone then index else index.drop p

/- Whether a path is not wanted in the work tree. -/
def isOut (desk : Desk) (p : Path) : Bool :=
  (desk.index.entry? p).any Entry.skipped
    || (Sparsity.rules? desk.site desk.files).any fun rules =>
      !Sparsity.isWanted rules p

/- How the index is brought up to date with the work tree. -/
structure Refreshing where
  keepsOld : Bool
  keepsGone : Bool
  /- What is known of the files does not count. -/
  isAnew : Bool
  /- Paths that are not wanted in the work tree are left alone. -/
  keepsOut : Bool

/-
  Bring the paths of the index that arguments stand for up to
  date with the work tree.
-/
def refresh (specs : Pathspec) (how : Refreshing) : Job Unit := do
  let desk ← get
  let lens := { desk.lens with spares := !how.isAnew }
  let paths := desk.index.paths.filter fun p =>
    specs.covers p && !(how.keepsOut && isOut desk p)
  WorkTree.check true true paths
  Job.changeIndex fun index =>
    paths.foldl
      (refreshPath desk.site desk.files lens how.keepsOld how.keepsGone)
      index

/- Whether a path with a slash behind it may be meant. -/
def coversFile (specs : Pathspec) (isDirectory : Bool) (p : Path) : Bool :=
  specs.covers p || (isDirectory && specs.covers (p ++ "/"))

/- Whether there is something at the path of a specification. -/
def isThere (desk : Desk) (spec : Spec) : Bool :=
  (desk.files.locateEntry desk.site.top spec.pattern).toOption.isSome

/- Whether a link leads to the path of a specification. -/
def isBeyondLink (desk : Desk) (spec : Spec) : Bool :=
  let names := namesOf spec.pattern
  ((List.range names.length).drop 1).any fun n =>
    match desk.files.node? (desk.site.top ++ names.take n) with
    | some (.link _) => true
    | _ => false

/-
  Whether a specification names something that is ignored, or
  leads into a directory that is.
-/
def namesIgnored (desk : Desk) (rules : Ignored.Rules) (spec : Spec) :
    Bool :=
  let bytes := RawByte.encode spec.pattern
  let plain := if spec.isPattern then
      bytes.takeWhile (fun b => !Wildcard.isSpecial b)
    else bytes
  let parts := Text.splitAt '/' (RawByte.decode plain)
  (List.range parts.length).any fun n =>
    let names := parts.take (n + 1)
    let isLast := n + 1 == parts.length
    let node? := desk.files.node? (desk.site.top ++ names)
    let isDirectory := node? == some .directory
    !names.contains "" && node?.isSome
      && (isLast || isDirectory)
      && Ignored.isIgnored rules isDirectory names
      && !WorkTree.isTracked desk.index (WorkTree.pathOf names)

/- Whether a specification leads into another work tree of the index. -/
def isInNested (desk : Desk) (spec : Spec) : Bool :=
  desk.index.any fun e =>
    match e.file with
    | .nested _ =>
      spec.pattern.startsWith (e.path ++ "/")
        && spec.pattern != e.path ++ "/"
    | _ => false

/- Whether a name means the administration directory on some system. -/
def isReserved (name : String) : Bool :=
  let small := (Text.lowerAscii name).toList.takeWhile (· != ':')
  let trimmed := String.ofList
    (small.reverse.dropWhile (fun c => c == ' ' || c == '.')).reverse
  trimmed == Repository.adminName || trimmed == "git~1"

/- Whether a path can be in an index. -/
def isGoodPath (p : Path) : Bool :=
  !(namesOf p).any fun name =>
    ((Text.splitAt '\\' name).drop 1).any isReserved || isReserved name

------------------------------------------------------------
-- Adding
------------------------------------------------------------

/- The options of the command. -/
def addRules : List String :=
  [ "n|dry-run", "v|verbose", "i|interactive", "p|patch", "e|edit",
    "f|force", "u|update", "renormalize", "N|intent-to-add", "A|all",
    "ignore-removal", "refresh", "ignore-errors", "ignore-missing",
    "sparse", "chmod=", "pathspec-from-file=", "pathspec-file-nul",
    "warn-embedded-repo" ]

/- Say of a file whether it can be started. -/
def withMode (executable : Bool) (e : Entry) : Entry :=
  match e.file with
  | .file content _ => { e with file := .file content executable }
  | _ => e

/- The file that an entry has until its file is really added. -/
def intendedFile : Tracked → Tracked
  | .file _ executable => .file [] executable
  | .link _ => .link ""
  | .nested id => .nested id

/- Put a file of the work tree into the index. -/
def takeNew (lens : Lens) (isIntended : Bool) (p : Path) : Job Unit := do
  let desk ← get
  if !isGoodPath p then
    Job.fail 128 ("error: invalid path '" ++ p
      ++ "'\nfatal: adding files failed")
  match WorkTree.entryFor? desk.site desk.files lens none p with
  | none =>
    Job.fail 128 ("error: '" ++ p
      ++ "/' does not have a commit checked out\n"
      ++ "fatal: adding files failed")
  | some e =>
    let entry :=
      if isIntended then
        { Entry.of p (intendedFile e.file) with intended := true }
      else e
    Job.changeIndex fun index => index.put entry

/- What the option for modes asks for. -/
def modeAsked? (arguments : Arguments) : Job (Option Bool) :=
  match arguments.value? "chmod" with
  | none => pure none
  | some "+x" => pure (some true)
  | some "-x" => pure (some false)
  | some other =>
    Job.fatal ("--chmod param '" ++ other
      ++ "' must be either -x or +x")

/- Whether a path that need not be there would be ignored. -/
def namesMissing (desk : Desk) (rules : Ignored.Rules) (spec : Spec) :
    Bool :=
  !isThere desk spec && Ignored.isIgnored rules false (namesOf spec.pattern)

/- Take files of the work tree over into the index. -/
def add (args : List String) : Job Int := do
  let arguments ← Job.attempt (Arguments.ofTexts addRules args)
  let words := arguments.all
  let mode? ← modeAsked? arguments
  if arguments.hasAny ["patch", "interactive", "edit"] then
    return 0
  let updates := arguments.has "update"
  let takesAll := arguments.has "all"
  if updates && takesAll then
    Job.fatal "options '-A' and '-u' cannot be used together"
  if arguments.has "ignore-missing" && !arguments.has "dry-run" then
    Job.fatal "the option '--ignore-missing' requires '--dry-run'"
  if words.isEmpty && !updates && !takesAll
      && !arguments.has "renormalize" then
    Job.complain "Nothing specified, nothing added."
    return 0
  let specs ← specsOf words
  let desk ← get
  let lens := desk.lens
  let rules := Ignored.rulesOf desk.site desk.files
  match specs.find? (isBeyondLink desk) with
  | some spec =>
    Job.fatal ("pathspec '" ++ spec.argument ++ "' is beyond a symbolic link")
  | none => pure ()
  match specs.find? (isInNested desk) with
  | some spec =>
    Job.fatal ("Pathspec '" ++ spec.argument ++ "' is in submodule")
  | none => pure ()
  let isNew := !updates && !arguments.has "refresh"
    && !arguments.has "renormalize"
  let isNested (p : Path) : Bool :=
    desk.files.isDirectoryAt (WorkTree.locationOf desk.site p)
  let isSkipped (p : Path) : Bool :=
    !arguments.has "sparse" && isOut desk p
  let (out, new) :=
    if !isNew then ([], [])
    else ((WorkTree.untracked desk.site desk.files desk.index).filter
      fun p =>
        coversFile specs (isNested p) p
          && (arguments.has "force"
            || !Ignored.isIgnored rules (isNested p) (namesOf p))).partition
      isSkipped
  let (skipped, wanted) := desk.index.paths.partition isSkipped
  let skipped := skipped ++ out
  let known := wanted ++ new
  let isOnlySkipped (spec : Spec) : Bool :=
    !known.any spec.coversDirectory && skipped.any spec.coversDirectory
  let isMatched (spec : Spec) : Bool :=
    known.any spec.coversDirectory || spec.pattern.isEmpty
      || isOnlySkipped spec
  let unmatched := specs.wanted.filter (fun spec => !isMatched spec)
  let isMissing (spec : Spec) : Bool :=
    spec.magic.keepsNames || spec.magic.foldsCase || !isThere desk spec
  match unmatched.find? isMissing, arguments.has "ignore-missing" with
  | some spec, false =>
    Job.fatal ("pathspec '" ++ spec.argument ++ "' did not match any files")
  | _, _ => pure ()
  let ignored :=
    if isNew && !arguments.has "force" then
      specs.filter fun spec =>
        namesIgnored desk rules spec
          || (arguments.has "ignore-missing" && namesMissing desk rules spec)
    else []
  if !arguments.has "refresh" then
    refresh specs ⟨arguments.has "intent-to-add",
      arguments.has "ignore-removal" || arguments.hasNo "all",
      arguments.has "renormalize", !arguments.has "sparse"⟩
  WorkTree.check true true new
  for p in new do
    takeNew lens (arguments.has "intent-to-add") p
  match mode? with
  | some executable =>
    Job.changeIndex fun index => index.map fun e =>
      if specs.covers e.path then withMode executable e else e
  | none => pure ()
  if arguments.has "dry-run" then
    Job.changeIndex fun _ => desk.index
  else
    Job.saveIndex
  let code := if specs.wanted.any isOnlySkipped then 1 else 0
  if ignored.isEmpty then return code
  Job.complain ("The following paths are ignored by one of your "
    ++ ".gitignore files:\n"
    ++ Text.joinWith "\n" (ignored.map Spec.argument))
  return 1

------------------------------------------------------------
-- Removing
------------------------------------------------------------

/- The options of the command. -/
def removeRules : List String :=
  [ "n|dry-run", "q|quiet", "cached", "f|force", "r", "ignore-unmatch",
    "sparse", "pathspec-from-file=", "pathspec-file-nul" ]

/- Whether a specification only fits because of a directory. -/
def isDeep (spec : Spec) (paths : List Path) : Bool :=
  let isShallow (p : Path) : Bool :=
    spec.pattern == p
      || (spec.isPattern
        && Wildcard.fitsBehindStart
          ⟨spec.magic.keepsNames, spec.magic.foldsCase⟩ spec.pattern p)
  !paths.any (fun p => spec.covers p && isShallow p)

/- Whether the work tree inside at a path keeps to a file for its history. -/
def isPointing (desk : Desk) (p : Path) : Bool :=
  match desk.files.node? (WorkTree.locationOf desk.site p
      ++ [Repository.adminName]) with
  | some (.file _ _) => true
  | _ => false

/- Whether a work tree inside has files that are kept nowhere else. -/
def hasOwnFiles (desk : Desk) (p : Path) : Bool :=
  let loc := WorkTree.locationOf desk.site p
  match WorkTree.nestedSite? desk.site desk.files loc with
  | some inner =>
    !isPointing desk p
      || (Differences.isDirtyTree desk.world 4
        { inner with settings := inner.settings
          ++ [⟨"status.showuntrackedfiles", some "all"⟩] } true).toOption
        != some false
  | none => !desk.files.isEmptyAt loc

/- Why a file is not removed, if it is not. -/
def objection? (desk : Desk) (lens : Lens) (isCached : Bool) (p : Path) :
    Option String :=
  match desk.index.entry? p, WorkTree.nodeAt? desk.site desk.files p with
  | none, _ => none
  | _, none => none
  | some e, some node =>
    let isNested := !(Differences.Insight.entries [e]).isEmpty
    if node == .directory && !isNested then none
    else if e.stage != 0 then none
    else
      let isChanged :=
        WorkTree.now? desk.site desk.files lens e != some e.file
          || (isNested && hasOwnFiles desk p)
      let isStaged := desk.headFiles.file? p != some e.file
      if isChanged && isStaged then
        if isCached && e.intended then none
        else
          some ("the following file has staged content different from both"
            ++ " the\nfile and the HEAD:\n    " ++ p)
      else if isCached then none
      else if isStaged then
        some ("the following file has changes staged in the index:\n    "
          ++ p)
      else if isChanged then
        some ("the following file has local modifications:\n    " ++ p)
      else none

/-
  Take files out of the work tree.  A directory in the place of
  a file is an obstacle as long as nothing has been removed.
  About work trees inside that are gone nothing is told.
-/
def removeAll (desk : Desk) (known : List Nested) :
    Bool → List Path → Job Unit
  | _, [] => pure ()
  | hasRemoved, p :: rest => do
    let isNested := match (desk.index.entry? p).map Entry.file with
      | some (.nested _) => true
      | _ => false
    match WorkTree.nodeAt? desk.site (← Job.files) p, isNested with
    | some .directory, true =>
      Job.changeFiles fun t => t.erase (WorkTree.locationOf desk.site p)
      Nested.forget known p
      removeAll desk known true rest
    | none, true =>
      Nested.forget known p
      removeAll desk known true rest
    | some .directory, false =>
      if !hasRemoved then
        Job.fatal ("git rm: '" ++ p ++ "': Is a directory")
      removeAll desk known hasRemoved rest
    | _, _ =>
      Job.changeFiles fun t => WorkTree.remove desk.site t p
      removeAll desk known true rest

/-
  Get ready for removing work trees inside: their histories are
  taken over, and what is told about them must be settled.
-/
def prepareNested (isCached : Bool) (paths : List Path) :
    Job (List Nested) := do
  let desk ← get
  let nested := Differences.Insight.entries
    (paths.filterMap desk.index.entry?)
  if nested.isEmpty then return []
  if Nested.isUnsettled desk then
    Job.fatal ("please stage your changes to .gitmodules or stash them to "
      ++ "proceed")
  let known ← Job.attempt (Nested.listed desk.site desk.world desk.index)
  if !isCached then
    for e in nested do
      let t ← Job.files
      let loc := WorkTree.locationOf desk.site e.path
      if t.isDirectoryAt loc && !t.isEmptyAt loc then
        let adopted ← Job.attempt (Nested.adopt desk.site known e.path t)
        Job.changeFiles fun _ => adopted
  return known

/- Take files out of the index and the work tree. -/
def remove (args : List String) : Job Int := do
  let arguments ← Job.attempt (Arguments.ofTexts removeRules args)
  let words := arguments.all
  if words.isEmpty then
    Job.fatal "No pathspec was given. Which files should I remove?"
  let specs ← specsOf words
  let desk ← get
  let fitting := desk.index.paths.filter fun p =>
    coversFile specs
      (desk.files.isDirectoryAt (WorkTree.locationOf desk.site p)) p
  let isSkipped (p : Path) : Bool :=
    !arguments.has "sparse" && isOut desk p
  let paths := fitting.filter (fun p => !isSkipped p)
  let mut code : Int := 0
  for spec in specs.wanted do
    if !paths.any spec.coversDirectory then
      if arguments.has "ignore-unmatch" then pure ()
      else if fitting.any spec.coversDirectory then
        code := 1
      else
        Job.fatal ("pathspec '" ++ spec.argument
          ++ "' did not match any files")
    else if !arguments.has "r" && isDeep spec paths then
      Job.fatal ("not removing '"
        ++ (if spec.pattern.isEmpty then "." else spec.pattern)
        ++ "' recursively without -r")
  let lens := desk.lens
  let isCached := arguments.has "cached"
  let known ← prepareNested isCached paths
  let desk ← get
  if !arguments.has "force" then
    let objections := paths.filterMap (objection? desk lens isCached)
    if !objections.isEmpty then
      Job.fail 1 (Text.joinWith "\n" (objections.map ("error: " ++ ·)))
  if !arguments.has "quiet" then
    for p in paths do
      Job.say ("rm '" ++ p ++ "'")
  if arguments.has "dry-run" || paths.isEmpty then return code
  Job.changeIndex fun index => paths.foldl Index.drop index
  if !isCached then
    removeAll desk known false paths
  Job.saveIndex
  return code

------------------------------------------------------------
-- Moving
------------------------------------------------------------

/- The options of the command. -/
def moveRules : List String :=
  ["v|verbose", "n|dry-run", "f|force", "k", "sparse"]

/- A path that gets another name. -/
structure Move where
  source : Path
  dest : Path
  /- Entries below the source are moved with it. -/
  isDirectory : Bool

/- The refusal of a path that is not wanted in the work tree. -/
def skippedSource : String := "skipped source"

/- Why a path is not moved. -/
def refusal? (desk : Desk) (isForced isLenient : Bool)
    (planned : List Path) (m : Move) : Option String :=
  let nodeOf (p : Path) : Option Node :=
    match desk.files.locateEntry desk.site.top p with
    | .ok loc => desk.files.node? loc
    | .error _ => none
  let isInside := m.dest == m.source
    || m.dest.startsWith (m.source ++ "/")
  match nodeOf m.source with
  | none =>
    if (desk.index.entry? m.source).any Entry.skipped then some skippedSource
    else some "bad source"
  | some node =>
    if isInside then some "can not move directory into itself"
    else if node == .directory
        && !(desk.index.merged? m.source).any (fun e =>
          match e.file with | .nested _ => true | _ => false) then
      let isGone (e : Entry) : Bool :=
        e.path.startsWith (m.source ++ "/") && (nodeOf e.path).isNone
      if (nodeOf m.dest).isSome then some "destination already exists"
      else if !isLenient && desk.index.any isGone then some "bad source"
      else if desk.index.any (fun e =>
          e.path.startsWith (m.source ++ "/")) then none
      else some "source directory is empty"
    else
      match desk.index.entry? m.source with
      | none => some "not under version control"
      | some e =>
        if e.stage != 0 then some "conflicted"
        else
          match nodeOf m.dest with
          | some .directory => some "destination exists"
          | some _ =>
            if isForced then
              if planned.contains m.dest then
                some "multiple sources for the same target"
              else none
            else some "destination exists"
          | none =>
            if planned.contains m.dest then
              some "multiple sources for the same target"
            else none

/-
  Give a path another name, in the index and in the work tree.
  The flag says that the work tree need not follow.
-/
def carryOutMove (desk : Desk) (isLenient : Bool) (m : Move) :
    Attempt Desk :=
  let site := desk.site
  let renamed (p : Path) : Path :=
    if p == m.source then m.dest
    else m.dest ++ "/" ++ without (m.source ++ "/") p
  let isMoved (e : Entry) : Bool :=
    e.path == m.source || (m.isDirectory
      && e.path.startsWith (m.source ++ "/")
      && (WorkTree.nodeAt? site desk.files e.path).isSome)
  let moved := (desk.index.filter isMoved).map fun e =>
    { e with path := renamed e.path, worn := none }
  let index := moved.foldl Index.put
    (desk.index.filter (fun e => !isMoved e))
  let t := desk.files
  match t.locateEntry site.top m.source, t.entrySite site.top m.dest with
  | .ok source, .ok dest =>
    .ok { desk with
      index
      world := desk.world.withFiles (t.move source dest) }
  | _, _ =>
    if isLenient then
      .ok { desk with
        index
        world := desk.world.withFiles
          (t.erase (WorkTree.locationOf site m.source)) }
    else
      .error (.fatal ("renaming '" ++ m.source
        ++ "' failed: No such file or directory"))

/- Whether a work tree inside is at a path or below. -/
def holdsNested (desk : Desk) (p : Path) : Bool :=
  (Differences.Insight.entries desk.index).any fun e =>
    e.path == p || e.path.startsWith (p ++ "/")

/- Let what is told about a work tree inside follow a move. -/
def followNested (source dest : Path) : Job Unit := do
  let desk ← get
  let site := desk.site
  let known ← Job.attempt (Nested.listed site desk.world desk.index)
  Nested.relocate known source dest
  let tree := WorkTree.locationOf site dest
  if isPointing desk dest then
    match lineIn? desk.files (tree ++ [Repository.adminName]) with
    | some line =>
      let old := WorkTree.locationOf site source
      match desk.files.directory? [] (Path.normalize
          (Path.join old.toPath (without "gitdir: " line))) with
      | some admin => Job.changeFiles fun t => Nested.connect t tree admin
      | none => pure ()
    | none => pure ()

/- Let the work trees inside follow a move. -/
def followMove (m : Move) : Job Unit := do
  let desk ← get
  for e in Differences.Insight.entries desk.index do
    if e.path == m.dest then followNested m.source m.dest
    else if m.isDirectory && e.path.startsWith (m.dest ++ "/") then
      followNested (m.source ++ "/" ++ without (m.dest ++ "/") e.path)
        e.path

/- Give files other names. -/
def move (args : List String) : Job Int := do
  let arguments ← Job.attempt (Arguments.ofTexts moveRules args)
  let words := arguments.all
  let desk ← get
  let site := desk.site
  match words.reverse with
  | [] => throw (.usage "usage: git mv [<options>] <source>... <destination>")
  | [_] =>
    throw (.usage "usage: git mv [<options>] <source>... <destination>")
  | last :: sources =>
    let pathOf (argument : String) : Attempt Path :=
      (Spec.namesFromTop site desk.files site.inner argument).map
        WorkTree.pathOf
    let dest ← Job.attempt (pathOf last)
    let isDirectory := dest.isEmpty
      || match desk.files.locateEntry site.top dest with
        | .ok loc => desk.files.isDirectoryAt loc
        | .error _ => false
    if !isDirectory && sources.length != 1 then
      Job.fatal ("destination '" ++ dest ++ "' is not a directory")
    let moves ← sources.reverse.mapM fun word => do
      let source ← Job.attempt (pathOf word)
      let name := (namesOf source).getLast?.getD source
      let dest :=
        if !isDirectory then dest
        else if dest.isEmpty then name
        else dest ++ "/" ++ name
      let isDeep := desk.files.isDirectoryAt (site.top ++ namesOf source)
      return (⟨source, dest, isDeep⟩ : Move)
    let hasPlace (p : Path) : Bool :=
      desk.files.isDirectoryAt (site.top ++ (namesOf p).dropLast)
    let sparsity? := Sparsity.rules? site desk.files
    let isUnwanted (p : Path) : Bool :=
      sparsity?.any fun rules => !Sparsity.isWanted rules p
    let refusals := moves.zipIdx.map fun (m, n) =>
      let planned := (moves.take n).map Move.dest
      let refusal? := refusal? desk (arguments.has "force")
        (arguments.has "k") planned m
      let refusal? :=
        if refusal?.isNone && !isDirectory && !m.isDirectory
            && last.endsWith "/" then
          some "destination directory does not exist"
        else if refusal?.isNone && !m.isDirectory && !hasPlace m.dest then
          some "destination directory does not exist"
        else if refusal?.isNone && !m.isDirectory
            && !arguments.has "sparse" && (isUnwanted m.source
              || isUnwanted m.dest) then
          some skippedSource
        else refusal?
      (m, refusal?)
    let bad := refusals.filterMap fun (m, refusal?) =>
      refusal?.map (m, ·)
    let first? := (bad.find? (fun (_, refusal) =>
      refusal != skippedSource)).orElse fun _ => bad.head?
    match first?, arguments.has "k" with
    | some (m, refusal), false =>
      if refusal == skippedSource then
        Job.fail 1 ("The following paths are outside of your "
          ++ "sparse-checkout definition:\n" ++ m.source)
      Job.fatal (refusal ++ ", source=" ++ m.source ++ ", destination="
        ++ m.dest)
    | _, _ => pure ()
    if moves.any (fun m => holdsNested desk m.source)
        && Nested.isUnsettled desk then
      Job.fatal ("Please stage your changes to .gitmodules or stash them to "
        ++ "proceed")
    if arguments.has "dry-run" then return 0
    for (m, refusal?) in refusals do
      if refusal?.isNone then
        set (← Job.attempt (carryOutMove (← get) (arguments.has "k") m))
        followMove m
    Job.saveIndex
    return 0

end Staging

end Versions

end Sandbox

end TreeLint
