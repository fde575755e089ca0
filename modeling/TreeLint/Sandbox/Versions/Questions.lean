import TreeLint.Sandbox.Versions.Combining
import TreeLint.Sandbox.Versions.Showing

/-
  Commands that only answer questions.

  Key definitions include:
    * `Questions.diff`
    * `Questions.status`
    * `Questions.listFiles`
    * `Questions.revisions`

  These commands tell what differs, which files are known, and
  what the names of commits stand for.  They leave the work
  tree and the index alone.
-/

------------------------------------------------------------
-- Differences
------------------------------------------------------------

namespace TreeLint

namespace Sandbox

namespace Versions

namespace Questions

/- The options of the command. -/
def diffRules : List String :=
  [ "cached", "staged", "q|quiet", "no-index", "merge-base", "0", "1|base",
    "2|ours", "3|theirs" ]

/- What is compared. -/
inductive Sides where
  | headWithTree (old : Snapshot)
  | headWithIndex (old : Snapshot)
  | indexWithTree
  | commits (old new : Snapshot)

/- The complaint about a word that means nothing. -/
def ambiguous {α : Type} (word : String) : Job α :=
  Job.fatal ("ambiguous argument '" ++ word
    ++ "': unknown revision or path not in the working tree.\n"
    ++ "Use '--' to separate paths from revisions, like this:\n"
    ++ "'git <command> [<revision>...] -- [<file>...]'")

/- Whether a word can stand for files. -/
def canBePath (desk : Desk) (word : String) : Bool :=
  Navigating.isFileName desk word || word.startsWith ":"
    || (RawByte.encode word).any Wildcard.isSpecial

/- The snapshots that a word stands for. -/
def snapshotsOf? (desk : Desk) (word : String) : Option (List Snapshot) :=
  let site := desk.site
  let filesOf (name : String) : Option Snapshot :=
    site.tree? desk.world (if name.isEmpty then headName else name)
  match word.splitOn "...", word.splitOn ".." with
  | [a, b], _ =>
    let idOf (name : String) : Option String :=
      site.commitId? desk.world (if name.isEmpty then headName else name)
    match idOf a, idOf b with
    | some a, some b =>
      some [Site.filesOf desk.world (Site.mergeBases desk.world a b).head?,
        Site.filesOf desk.world (some b)]
    | _, _ => none
  | _, [a, b] =>
    match filesOf a, filesOf b with
    | some a, some b => some [a, b]
    | _, _ => none
  | _, _ => (filesOf word).map fun files => [files]

/- The revisions in front of the paths in a list of words. -/
def splitRevisions (desk : Desk) : List String →
    List Snapshot × List String
  | [] => ([], [])
  | word :: rest =>
    match snapshotsOf? desk word with
    | some found =>
      let (more, paths) := splitRevisions desk rest
      (found ++ more, paths)
    | none => ([], word :: rest)

/- The rows of two sides. -/
def rowsOf (insight : Differences.Insight) (desk : Desk) :
    Sides → List Differences.Row
  | .headWithTree old =>
    Differences.withTree insight desk desk.lens old
  | .headWithIndex old => Differences.withIndex old desk.index
  | .indexWithTree => Differences.ofTree insight desk desk.lens
  | .commits old new => Differences.between old new

/- With how much attention work trees inside are looked at. -/
def insightFor (arguments : Arguments) : Job Differences.Insight := do
  let insight := Differences.Insight.of (← get)
  match arguments.last? "ignore-submodules" with
  | none => return insight
  | some given =>
    let word := given.value?.getD "all"
    match Differences.Blindness.ofWord? word with
    | some blindness => return { insight with override? := some blindness }
    | none => Job.fatal ("bad --ignore-submodules argument: " ++ word)

/- The directory that changes are seen from. -/
def relative (site : Site) (arguments : Arguments)
    (rows : List Differences.Row) : List Differences.Row :=
  match arguments.last? "relative" with
  | some ⟨_, true, _⟩ => rows
  | some ⟨_, false, some front⟩ =>
    rows.filterMap fun row =>
      if row.path.startsWith front then
        let rest := without front row.path
        some { row with
          path := if rest.startsWith "/" then without "/" rest else rest }
      else none
  | some ⟨_, false, none⟩ => Differences.relative site rows
  | none =>
    if site.flag "diff.relative" false then Differences.relative site rows
    else rows

/- The names of the sides. -/
def Sides.fronts : Sides → Showing.Fronts
  | .headWithTree _ => .commitAndTree
  | .headWithIndex _ => .commitAndIndex
  | .indexWithTree => .indexAndTree
  | .commits _ _ => .commitsOnly

/-
  Tell what differs.  If files are suspected, it is enough that
  one may have been changed.
-/
def compare (isSuspecting : Bool) (args : List String) : Job Int := do
  let arguments ← Job.attempt (Showing.argumentsOf diffRules args)
  let desk ← get
  let site := desk.site
  match (arguments.value? "O").orElse fun _ =>
      site.text? "diff.orderfile" with
  | some p =>
    if p != "" && !desk.files.isFile site.top p then
      Job.fatal ("could not read order file '" ++ p ++ "'")
  | none => pure ()
  let (found, others) := splitRevisions desk arguments.words
  match arguments.behind?, others with
  | some _, word :: _ =>
    Job.fatal ("bad revision '" ++ word ++ "'")
  | none, words =>
    match words.find? (fun word => !canBePath desk word) with
    | some word => ambiguous word
    | none => pure ()
  | some _, [] => pure ()
  let specs ← Staging.specsOf (others ++ arguments.behind?.getD [])
  let isCached := arguments.hasAny ["cached", "staged"]
  let sides ← match found, isCached with
    | [], true => pure (Sides.headWithIndex desk.headFiles)
    | [old], true => pure (.headWithIndex old)
    | [], false => pure .indexWithTree
    | [old], false => pure (.headWithTree old)
    | [old, new], false => pure (.commits old new)
    | _, _ =>
      throw (.usage "usage: git diff [<options>] [<commit>] [--] [<path>...]")
  match sides, site.top? with
  | .commits _ _, _ => pure ()
  | _, none => Job.fatal "this operation must be run in a work tree"
  | .indexWithTree, _ => WorkTree.check false true desk.index.paths
  | .headWithTree _, _ => WorkTree.check false true desk.index.paths
  | _, _ => pure ()
  let isWithTree := match sides with
    | .indexWithTree => true
    | .headWithTree _ => true
    | _ => false
  let insight ← insightFor arguments
  if isWithTree then
    Job.attempt (Differences.checkInside insight desk)
  let rows := (rowsOf insight desk sides).filter
    (fun row => specs.covers row.path)
  let rows :=
    if isSuspecting && isWithTree then
      Differences.suspecting site desk.world desk.index rows
    else rows
  let rows := Differences.visible insight site rows
  let rows := relative site arguments rows
  let rows := if arguments.has "R" then
      rows.map (fun row => { row with old := row.new, new := row.old })
    else rows
  let style ← Showing.styleFor site sides.fronts arguments
  let changes ← Showing.chosen arguments style
    (Differences.changes
      (if isSuspecting then Showing.followingAsked site arguments
        else Showing.following site arguments) rows)
  let hasId (p : Path) : Bool :=
    !isWithTree || match desk.index.entry? p,
        WorkTree.nodeAt? site desk.files p with
      | some e, some (.file content _) =>
        sides.fronts != .indexAndTree
          && (e.worn.isNone || WorkTree.isAsRemembered site desk.files
            (some e) p content)
          && WorkTree.now? site desk.files desk.lens e == some e.file
      | some e, some _ =>
        sides.fronts != .indexAndTree
          && WorkTree.now? site desk.files desk.lens e == some e.file
      | _, _ => true
  Showing.printChanges arguments style isSuspecting hasId changes
  let lens := desk.lens
  if isWithTree && !isSuspecting then
    WorkTree.learnQuietly
  let isFaulty := arguments.has "check"
    && changes.any (Showing.isFaulty desk lens style)
  let isFound :=
    if !Showing.dependsOnLines style then !changes.isEmpty
    else if arguments.has "quiet" || !Showing.asksForAny arguments
        || Showing.asksForPatch arguments then
      changes.any fun change =>
        !(Patch.ofChange site style change).isEmpty
    else false
  return Showing.codeFor arguments isFound isFaulty

/- Tell what differs, looking at all files that may. -/
def diff (args : List String) : Job Int :=
  compare false args

------------------------------------------------------------
-- Status
------------------------------------------------------------

/- The options of the command. -/
def statusRules : List String :=
  [ "v|verbose", "s|short", "b|branch", "show-stash", "ahead-behind",
    "porcelain?", "long", "z|null", "u|untracked-files?", "ignored?",
    "ignore-submodules?", "column?", "no-renames", "renames",
    "M|find-renames?" ]

/- The letters of a path in a short status. -/
def lettersOf (index : Index) (p : Path) (staged worked : String) :
    String :=
  let has (n : Nat) : Bool := (index.staged? p n).isSome
  if index.conflicts.contains p then
    match has 1, has 2, has 3 with
    | true, false, false => "DD"
    | false, true, false => "AU"
    | true, true, false => "UD"
    | false, false, true => "UA"
    | true, false, true => "DU"
    | false, true, true => "AA"
    | _, _, _ => "UU"
  else staged ++ worked

/- Paths that nobody tracks; whole directories are taken together. -/
def looseNames (desk : Desk) (isFull : Bool) : List String :=
  let site := desk.site
  let t := desk.files
  let rules := Ignored.rulesOf site t
  let loose := (WorkTree.untracked site t desk.index).filter fun p =>
    !Ignored.isIgnored rules (t.isDirectoryAt (WorkTree.locationOf site p))
      (namesOf p)
  let short (p : Path) : String :=
    let names := namesOf p
    let fronts := (List.range names.length).map fun n =>
      WorkTree.pathOf (names.take (n + 1))
    match fronts.find? (fun front => front != p
        && !desk.index.any (fun e => e.path.startsWith (front ++ "/"))) with
    | some front => front ++ "/"
    | none =>
      if t.isDirectoryAt (WorkTree.locationOf site p) then p ++ "/" else p
  let isKnown (name : String) : Bool :=
    desk.index.any (fun e => e.path ++ "/" == name)
  ((if isFull then loose else loose.map short).filter
    (fun name => !isKnown name)).eraseDups

/- A name in a short status, where blanks separate names. -/
def statusName (site : Site) (isRaw : Bool) (name : String) : String :=
  if isRaw then name
  else
    let shown := Patch.shownName site name
    if shown == name && name.contains ' ' then "\"" ++ name ++ "\""
    else shown

/- Tell what would be committed and what would not. -/
def status (args : List String) : Job Int := do
  let arguments ← Job.attempt (Arguments.ofTexts statusRules args)
  let specs ← Staging.specsOf arguments.all
  WorkTree.learnQuietly
  let desk ← get
  let site := desk.site
  let lens := { desk.lens with found := id }
  let changesOf (rows : List Differences.Row) : List Differences.Change :=
    Differences.changes (Differences.following? site)
      (rows.filter (fun row => specs.covers row.path && !row.isUnmerged))
  let mode := arguments.value? "untracked-files"
  let hidesLoose := mode == some "no"
    || (mode.isNone && site.text? "status.showuntrackedfiles" == some "no")
  let insight ← insightFor arguments
  let insight := if hidesLoose then insight
    else { insight with usual := .nothing }
  Job.attempt (Differences.checkInside insight desk)
  let staged := changesOf (Differences.visible insight site
    (Differences.withIndex desk.headFiles desk.index))
  let worked := changesOf (Differences.visible insight site
    (Differences.ofTree insight desk lens))
  let loose := if hidesLoose then []
    else (looseNames desk (mode == some "all")).filter specs.covers
  let isShort := arguments.hasAny ["short", "porcelain", "null"]
    || (site.flag "status.short" false && !arguments.has "long")
  let isRaw := arguments.has "null"
  let ending := if isRaw then "\x00" else "\n"
  let branch := match site.headName? desk.files with
    | some name => shortName name
    | none => "HEAD (no branch)"
  let letter (changes : List Differences.Change) (p : Path) : String :=
    match changes.find? (fun c => c.row.path == p) with
    | some c => Patch.statusOf c
    | none => " "
  let paths := Snapshot.paths
    [ (staged ++ worked).map (fun c => (c.row.path, .link "")),
      desk.index.conflicts.filterMap (fun p =>
        if specs.covers p then some (p, .link "") else none) ]
  if isShort then
    if arguments.has "branch" then
      Job.print (RawByte.encode ("## "
        ++ (if (site.head? desk.files).isNone then "No commits yet on "
          else "") ++ branch ++ ending))
    for p in paths do
      let source? := (staged.find? (fun c => c.row.path == p)).bind
        (fun change => change.source?.map Differences.Source.path)
      let name := statusName site isRaw p
      let names := match source?, isRaw with
        | none, _ => name
        | some source, true => name ++ ending ++ source
        | some source, false =>
          statusName site isRaw source ++ " -> " ++ name
      Job.print (RawByte.encode
        (lettersOf desk.index p (letter staged p) (letter worked p)
          ++ " " ++ names ++ ending))
    for p in loose do
      Job.print (RawByte.encode
        ("?? " ++ statusName site isRaw p ++ ending))
  else
    Job.say ("On branch " ++ branch)
    if (site.head? desk.files).isNone then Job.say "\nNo commits yet\n"
    if !staged.isEmpty then
      Job.say "Changes to be committed:"
      for c in staged do
        Job.say ("\tmodified:   " ++ c.row.path)
    if !worked.isEmpty then
      Job.say "Changes not staged for commit:"
      for c in worked do
        Job.say ("\tmodified:   " ++ c.row.path)
    if !loose.isEmpty then
      Job.say "Untracked files:"
      for p in loose do
        Job.say ("\t" ++ p)
    if staged.isEmpty && worked.isEmpty && loose.isEmpty
        && desk.index.conflicts.isEmpty then
      Job.say "nothing to commit, working tree clean"
  return 0

------------------------------------------------------------
-- Files
------------------------------------------------------------

/- The options of the command. -/
def listRules : List String :=
  [ "z", "t", "v", "f", "deduplicate", "c|cached", "d|deleted",
    "m|modified", "o|others", "i|ignored", "s|stage", "k|killed",
    "directory", "eol", "empty-directory", "u|unmerged", "resolve-undo",
    "x|exclude=", "X|exclude-from=", "exclude-per-directory=",
    "exclude-standard", "full-name", "recurse-submodules", "error-unmatch",
    "with-tree=", "abbrev?", "debug", "sparse", "format=" ]

/- A path as it is shown in the working directory. -/
def fromHere (site : Site) (isFull : Bool) (p : Path) : String :=
  let names := namesOf p
  if isFull then p
  else if site.inner.isPrefixOf names then
    WorkTree.pathOf (names.drop site.inner.length)
  else
    let shared := (List.range site.inner.length).foldl
      (fun n i =>
        if n == i && site.inner[i]? == names[i]? then n + 1 else n) 0
    WorkTree.pathOf
      (List.replicate (site.inner.length - shared) Path.parent
        ++ names.drop shared)

/- List the files of the index or of the work tree. -/
def listFiles (args : List String) : Job Int := do
  let arguments ← Job.attempt (Arguments.ofTexts listRules args)
  let specs ← Staging.specsOf arguments.all
  let desk ← get
  let site := desk.site
  let t := desk.files
  let here := WorkTree.pathOf site.inner
  let isMeant (p : Path) : Bool :=
    specs.covers p
      && (!specs.isEmpty || here.isEmpty || p.startsWith (here ++ "/"))
  let rules := Ignored.rulesOf site t
  let isIgnored (p : Path) : Bool :=
    arguments.has "exclude-standard"
      && Ignored.isIgnored rules
        (t.isDirectoryAt (WorkTree.locationOf site p)) (namesOf p)
  let lens := desk.lens
  let others := if arguments.has "others" then
      (WorkTree.untracked site t desk.index).filter fun p =>
        isMeant p && (isIgnored p == arguments.has "ignored")
    else []
  let isGone (e : Entry) : Bool := (WorkTree.now? site t lens e).isNone
  let isModified (e : Entry) : Bool :=
    WorkTree.now? site t lens e != some e.file
  let showsCached := arguments.hasAny ["cached", "stage", "unmerged"]
    || !arguments.hasAny ["deleted", "modified", "others", "killed"]
  let sorted := desk.index.mergeSort fun a b =>
    if a.path == b.path then a.stage ≤ b.stage
    else RawByte.precedes a.path b.path
  let entries := sorted.filter fun e =>
    isMeant e.path
      && (!arguments.has "unmerged" || e.stage != 0)
      && ((showsCached && (!arguments.has "ignored" || isIgnored e.path))
        || (arguments.has "deleted" && isGone e)
        || (arguments.has "modified" && isModified e))
  let ending := if arguments.has "z" then "\x00" else "\n"
  let shown (p : Path) : String :=
    let p := fromHere site (arguments.has "full-name") p
    if arguments.has "z" then p else Patch.shownName site p
  for p in others do
    Job.print (RawByte.encode (shown p
      ++ (if t.isDirectoryAt (WorkTree.locationOf site p) then "/" else "")
      ++ ending))
  for e in entries do
    let front :=
      if arguments.hasAny ["stage", "unmerged"] then
        modeOf e.file ++ " " ++ fileId e.file ++ " " ++ toString e.stage
          ++ "\t"
      else if arguments.has "v" then
        (if e.assumed then "h " else if e.skipped then "S " else "H ")
      else if arguments.has "t" then
        (if e.skipped then "S " else if e.stage != 0 then "M " else "H ")
      else ""
    Job.print (RawByte.encode (front ++ shown e.path ++ ending))
  if arguments.has "error-unmatch" then
    match specs.unmatched? (others ++ entries.map Entry.path) with
    | some spec =>
      Job.fail 1 ("error: pathspec '" ++ spec.argument
        ++ "' did not match any file(s) known to git")
    | none => pure ()
  return 0

/- Tell which paths are ignored. -/
def checkIgnored (args : List String) : Job Int := do
  let arguments ← Job.attempt (Arguments.ofTexts
    ["q|quiet", "v|verbose", "stdin", "z", "n|non-matching", "no-index"]
    args)
  let desk ← get
  let words := arguments.all
  if words.isEmpty && !arguments.has "stdin" then
    Job.fatal "no path specified"
  if arguments.has "quiet" && 1 < words.length then
    Job.fatal "--quiet is only valid with a single pathname"
  let rules := Ignored.rulesOf desk.site desk.files
  let mut found := false
  for word in words do
    let names ← Job.attempt (Spec.namesFromTop desk.site desk.files
      desk.site.inner word)
    let isDirectory := desk.files.isDirectoryAt (desk.site.top ++ names)
      || word.endsWith "/"
    let isTracked := !arguments.has "no-index"
      && desk.index.holds (WorkTree.pathOf names)
    if !isTracked && Ignored.isIgnored rules isDirectory names then
      found := true
      if !arguments.has "quiet" then Job.say word
  return if found then 0 else 1

------------------------------------------------------------
-- Revisions
------------------------------------------------------------

/- The way up from the working directory to the top. -/
def wayUp (site : Site) : String :=
  String.join (site.inner.map fun _ => "../")

/- A name of a revision without where it comes from. -/
def abbreviatedName (desk : Desk) (word : String) : String :=
  let site := desk.site
  let name := if word == "@" then headName else word
  if name == headName then
    ((site.headName? desk.files).map shortName).getD headName
  else ((site.named? desk.files name).map shortName).getD name

/- Answer one question about the repository, if it is one. -/
def answer? (desk : Desk) (word : String) : Option String :=
  let site := desk.site
  let yes (b : Bool) : String := if b then "true" else "false"
  let isInTree := site.top?.any (fun top => top.isPrefixOf site.call.cwd)
  match word with
  | "--git-dir" =>
    some (if some site.admin == site.top?.map (· ++ [".git"])
        && site.inner.isEmpty then ".git"
      else if site.admin == site.call.cwd then "."
      else site.admin.toPath)
  | "--absolute-git-dir" => some site.admin.toPath
  | "--git-common-dir" =>
    some (if some site.common == site.top?.map (· ++ [".git"])
        && site.inner.isEmpty then ".git"
      else site.common.toPath)
  | "--show-toplevel" => site.top?.map Location.toPath
  | "--show-prefix" =>
    some (String.join (site.inner.map (· ++ "/")))
  | "--show-cdup" => some (wayUp site)
  | "--is-inside-git-dir" =>
    some (yes (site.admin.isPrefixOf site.call.cwd))
  | "--is-inside-work-tree" =>
    some (yes (isInTree && !site.admin.isPrefixOf site.call.cwd))
  | "--is-bare-repository" => some (yes site.top?.isNone)
  | "--is-shallow-repository" => some "false"
  | "--show-object-format" => some "sha1"
  | "--show-ref-format" => some "files"
  | _ => none

/- Say what words stand for. -/
def revisions (args : List String) : Job Int := do
  let desk ← get
  let site := desk.site
  let isQuiet := args.contains "-q" || args.contains "--quiet"
  let isVerified := args.contains "--verify"
  let isShort := args.any (fun a => a.startsWith "--short")
  let isAbbreviated := args.any (fun a => a.startsWith "--abbrev-ref")
  let isSymbolic := args.contains "--symbolic-full-name"
  let words := args.filter (fun a => a != "--")
  let mut count := 0
  for word in words do
    match answer? desk word with
    | some text => Job.say text
    | none =>
      if word == "--show-toplevel" then
        Job.fatal "this operation must be run in a work tree"
      else if word == "--all" || word == "--branches" then
        for name in site.references desk.files
            (if word == "--all" then referenceStart else branchStart) do
          Job.say ((site.reference? desk.files name).getD "")
      else if word.startsWith "-" then pure ()
      else
        count := count + 1
        match site.revision? desk.world word with
        | some id =>
          if isAbbreviated then
            Job.say (abbreviatedName desk word)
          else if isSymbolic then
            Job.say (match site.named? desk.files word with
              | some full => site.lastName desk.files 5 full
              | none => "")
          else if isShort then
            Job.say (String.ofList (id.toList.take 7))
          else Job.say id
        | none =>
          match word.splitOn "..", isVerified with
          | [a, b], false =>
            match site.revision? desk.world (if a.isEmpty then "HEAD" else a),
                site.revision? desk.world (if b.isEmpty then "HEAD" else b) with
            | some old, some new =>
              Job.say new
              Job.say ("^" ++ old)
            | _, _ => ambiguous word
          | _, true =>
            if isQuiet then Job.fail 1 ""
            Job.fatal "Needed a single revision"
          | _, false =>
            if Navigating.isFileName desk word then Job.say word
            else
              Job.say word
              ambiguous word
  if isVerified && count != 1 then
    if isQuiet then return 1
    Job.fatal "Needed a single revision"
  return 0

end Questions

end Versions

end Sandbox

end TreeLint
