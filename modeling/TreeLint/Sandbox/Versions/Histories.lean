import TreeLint.Sandbox.Versions.Questions

/-
  Commands about what is kept.

  Key definitions include:
    * `Histories.log`
    * `Histories.show`
    * `Histories.listReferences`
    * `Histories.object`
    * `Histories.readTree`

  These commands print commits, files and references, or they
  put something into the archive or into the index that no
  work tree needs to have.
-/

------------------------------------------------------------
-- Commits As Texts
------------------------------------------------------------

namespace TreeLint

namespace Sandbox

namespace Versions

namespace Histories

/- The beginning of a name, as it is shown. -/
def short (id : String) : String :=
  String.ofList (id.toList.take 7)

/- What a sign behind a percent sign stands for, and what follows it. -/
def placeholder (id : String) (c : Commit) :
    List Char → String × List Char
  | 'H' :: rest => (id, rest)
  | 'h' :: rest => (short id, rest)
  | 'T' :: rest => (treeId c.files, rest)
  | 't' :: rest => (short (treeId c.files), rest)
  | 'P' :: rest => (Text.joinWith " " c.parents, rest)
  | 'p' :: rest => (Text.joinWith " " (c.parents.map short), rest)
  | 's' :: rest => (Committing.subject c.message, rest)
  | 'B' :: rest => (c.message, rest)
  | 'b' :: rest =>
    (String.ofList
      ((c.message.toList.dropWhile (· != '\n')).dropWhile (· == '\n')),
      rest)
  | 'a' :: 'n' :: rest => ("test", rest)
  | 'a' :: 'e' :: rest => ("test@example.com", rest)
  | 'c' :: 'n' :: rest => ("test", rest)
  | 'c' :: 'e' :: rest => ("test@example.com", rest)
  | 'n' :: rest => ("\n", rest)
  | '%' :: rest => ("%", rest)
  | rest => ("%", rest)

/- A commit in a format. -/
def formatted (id : String) (c : Commit) : Nat → List Char → String
  | 0, _ => ""
  | _ + 1, [] => ""
  | fuel + 1, '%' :: rest =>
    let (text, rest) := placeholder id c rest
    text ++ formatted id c fuel rest
  | fuel + 1, other :: rest =>
    String.singleton other ++ formatted id c fuel rest

/- The message of a commit, set in. -/
def indented (message : String) : String :=
  let lines := Text.splitAt '\n' message
  let lines := if lines.getLast? == some "" then lines.dropLast else lines
  String.join (lines.map fun line => "    " ++ line ++ "\n")

/- A commit in the customary form. -/
def plain (id : String) (c : Commit) : String :=
  "commit " ++ id ++ "\n"
    ++ (if 1 < c.parents.length then
        "Merge: " ++ Text.joinWith " " (c.parents.map short) ++ "\n"
      else "")
    ++ "Author: test <test@example.com>\n\n" ++ indented c.message

/- The options of the commands. -/
def logRules : List String :=
  [ "#", "n|max-count=", "oneline", "format=", "pretty?", "q|quiet", "all",
    "branches?", "tags?", "remotes?", "reverse", "graph", "decorate?",
    "abbrev-commit", "merges", "no-merges", "first-parent", "skip=",
    "since=", "until=", "after=", "before=", "author=", "committer=",
    "grep=", "all-match", "invert-grep", "date=", "L=", "topo-order",
    "date-order", "author-date-order", "count", "parents", "children",
    "root", "full-history", "simplify-merges", "source", "not",
    "i|regexp-ignore-case", "E|extended-regexp", "F|fixed-strings",
    "P|perl-regexp", "left-right", "cherry-pick", "cherry", "boundary",
    "objects", "walk-reflogs", "g", "no-walk?", "show-signature", "notes?" ]

/- Print one commit as options say. -/
def printCommit (arguments : Arguments) (id : String) (c : Commit) :
    Job Unit := do
  let format? := match arguments.value? "format",
      arguments.value? "pretty" with
    | some format, _ => some format
    | none, some format => some format
    | none, none => none
  let isLine := arguments.has "oneline" || format? == some "oneline"
  match isLine, format? with
  | true, _ =>
    Job.say (short id ++ " " ++ Committing.subject c.message)
  | false, some format =>
    let format := if format.startsWith "format:" then
        without "format:" format
      else if format.startsWith "tformat:" then without "tformat:" format
      else format
    if format == "short" || format == "medium" || format == "full" then
      Job.say (plain id c)
    else
      Job.say (formatted id c (format.length + 1) format.toList)
  | false, none => Job.say (plain id c)

/- The files that a commit has changed. -/
def changesOf (desk : Desk) (arguments : Arguments) (c : Commit) :
    List Differences.Change :=
  if 1 < c.parents.length then []
  else
    let old := Site.filesOf desk.world c.parents.head?
    Differences.changes (Showing.following desk.site arguments)
      (if arguments.has "R" then Differences.between c.files old
        else Differences.between old c.files)

/- The commits that revisions and ranges stand for. -/
def commitsOf (desk : Desk) (words : List String) :
    Job (List String) := do
  let site := desk.site
  let mut tips : List String := []
  let mut others : List String := []
  for word in words do
    match word.splitOn "..", word.toList with
    | [a, b], _ =>
      let idOf (name : String) : Option String :=
        site.commitId? desk.world (if name.isEmpty then headName else name)
      match idOf a, idOf b with
      | some a, some b =>
        tips := b :: tips
        others := a :: others
      | _, _ => Questions.ambiguous word
    | _, '^' :: name =>
      match site.commitId? desk.world (String.ofList name) with
      | some id => others := id :: others
      | none => Job.fatal ("bad revision '" ++ word ++ "'")
    | _, _ =>
      match site.commitId? desk.world word with
      | some id => tips := id :: tips
      | none => Questions.ambiguous word
  return (Combining.between desk.world tips others).reverse

/- The revisions among words, and the paths. -/
def splitWords (desk : Desk) (arguments : Arguments) :
    List String × List String :=
  let isRevision (word : String) : Bool :=
    word.startsWith "^" || (1 < (word.splitOn "..").length)
      || (desk.site.commitId? desk.world word).isSome
  match arguments.behind? with
  | some paths => (arguments.words, paths)
  | none =>
    let revisions := arguments.words.takeWhile fun word =>
      isRevision word || !Questions.canBePath desk word
    (revisions, arguments.words.drop revisions.length)

/- The commits that options and words ask for, the newest first. -/
def askedFor (arguments : Arguments) : Job (List String) := do
  let desk ← get
  let site := desk.site
  let (revisions, paths) := splitWords desk arguments
  let all := if arguments.hasAny ["all", "branches"] then
      (site.references desk.files
        (if arguments.has "all" then referenceStart else branchStart))
    else []
  let revisions := revisions ++ all
  if revisions.isEmpty && (site.head? desk.files).isNone then
    Job.fatal ("your current branch '"
      ++ ((site.headName? desk.files).map shortName).getD headName
      ++ "' does not have any commits yet")
  let ids ← commitsOf desk
    (if revisions.isEmpty then [headName] else revisions)
  let specs ← Staging.specsOf paths
  let isMeant (id : String) : Bool :=
    match desk.world.archive.commit? id with
    | none => false
    | some c =>
      (paths.isEmpty
        || (Differences.between (Site.filesOf desk.world c.parents.head?)
          c.files).any fun row => row.differs && specs.covers row.path)
        && (!arguments.has "merges" || 1 < c.parents.length)
        && !(arguments.has "no-merges" && 1 < c.parents.length)
  let ids := ids.filter isMeant
  let ids := match arguments.value? "skip" with
    | some text => ids.drop ((Numeral.natural? 10 text.toList).getD 0)
    | none => ids
  let count? := match arguments.value? "max-count",
      arguments.value? "#" with
    | some text, _ => Numeral.natural? 10 text.toList
    | none, some text => Numeral.natural? 10 text.toList
    | none, none => none
  let ids := match count? with
    | some n => ids.take n
    | none => ids
  return if arguments.has "reverse" then ids.reverse else ids

/- Print the changes of a commit behind its message. -/
def showChanges (arguments : Arguments)
    (changes : List Differences.Change) : Job Unit := do
  let style ← Showing.styleFor (← get).site .commitsOnly arguments
  let changes ← Showing.chosen arguments style changes
  let isBare := arguments.has "oneline"
    || arguments.value? "format" == some ""
    || arguments.value? "pretty" == some "oneline"
  if !changes.isEmpty && !isBare && !arguments.has "quiet"
      && !Showing.asksForNothing arguments then
    Job.say (if Showing.asksForPatch arguments
        && arguments.hasAny ["stat", "patch-with-stat", "compact-summary"]
      then "---" else "")
  Showing.printChanges arguments style false (fun _ => true) changes

/- Something directly inside of a directory. -/
inductive Item where
  | file (file : Tracked)
  | directory (files : Snapshot)

namespace Item

/- What is under a name in a snapshot. -/
def of? (files : Snapshot) (name : String) : Option Item :=
  match files.file? name with
  | some kept => some (.file kept)
  | none =>
    let part := partOf files name
    if part.isEmpty then none else some (.directory part)

/- The mode of an item. -/
def mode : Item → String
  | .file kept => modeOf kept
  | .directory _ => "040000"

/- The digest of an item. -/
def id : Item → String
  | .file kept => fileId kept
  | .directory part => treeId part

end Item

/- The names directly inside of snapshots that are not the same. -/
def changedItems (rows : List Differences.Row) : List String :=
  (rows.filter Differences.Row.differs).map (fun row =>
    (namesOf row.path).head?.getD row.path) |>.eraseDups

/- Print changes without going into directories. -/
def printItems (arguments : Arguments) (old new : Snapshot)
    (names : List String) : Job Unit := do
  let site := (← get).site
  let isNull := arguments.has "z"
  for name in names do
    let before := Item.of? old name
    let after := Item.of? new name
    let kind (item : Item) : String := String.ofList (item.mode.toList.take 2)
    let status := match before, after with
      | none, _ => "A"
      | _, none => "D"
      | some a, some b => if kind a == kind b then "M" else "T"
    let shown := if isNull then name ++ "\x00"
      else Patch.shownName site name ++ "\n"
    let sign := if isNull then "\x00" else "\t"
    let idOf (item? : Option Item) : String :=
      let id := (item?.map Item.id).getD Site.noId
      if (arguments.last? "abbrev").isSome then short id else id
    let modeOf (item? : Option Item) : String :=
      (item?.map Item.mode).getD "000000"
    let isAsked := Showing.hasLetter (arguments.value? "diff-filter")
      ⟨⟨name, before.map fun _ => .link "", after.map fun _ => .link "",
        false, false⟩, none⟩
    if isAsked then
      Job.print (RawByte.encode
        (if arguments.has "name-only" then shown
        else if arguments.has "name-status" then status ++ sign ++ shown
        else
          ":" ++ modeOf before ++ " " ++ modeOf after ++ " " ++ idOf before
            ++ " " ++ idOf after ++ " " ++ status ++ sign ++ shown))

/- Compare commits or trees. -/
def diffTree (args : List String) : Job Int := do
  let arguments ← Job.attempt (Showing.argumentsOf
    ["q|quiet", "root", "no-commit-id", "stdin", "merge-base", "always",
      "v", "pretty?", "format="] args)
  let desk ← get
  let site := desk.site
  let isTree (word : String) : Bool := (site.tree? desk.world word).isSome
  let words := arguments.words.takeWhile isTree
  let paths := arguments.words.drop words.length ++ arguments.behind?.getD []
  match arguments.words.drop words.length, arguments.behind? with
  | word :: _, none =>
    if !Questions.canBePath desk word then Questions.ambiguous word
  | word :: _, some _ => Job.fatal ("bad revision '" ++ word ++ "'")
  | [], _ => pure ()
  let specs ← Staging.specsOf paths
  let (title?, sides?) ← match words with
    | [] => throw (.usage "usage: git diff-tree [<options>] <tree-ish>")
    | [word] =>
      match site.commitId? desk.world word with
      | none => throw (.usage "usage: git diff-tree [<options>] <tree-ish>")
      | some id =>
        let commit? := desk.world.archive.commit? id
        let files := Site.filesOf desk.world (some id)
        match commit?.map Commit.parents with
        | some [parent] =>
          pure (some id, some (Site.filesOf desk.world (some parent), files))
        | some [] =>
          pure (some id,
            if arguments.has "root" then some ([], files) else none)
        | _ => pure (some id, none)
    | a :: b :: _ =>
      pure (none, some ((site.tree? desk.world a).getD [],
        (site.tree? desk.world b).getD []))
  match sides? with
  | none => return 0
  | some (old, new) =>
    let (old, new) := if arguments.has "R" then (new, old) else (old, new)
    let rows := (Differences.between old new).filter fun row =>
      specs.covers row.path
    let rows := Questions.relative site arguments rows
    let style ← Showing.styleFor site .commitsOnly arguments
    let isDeep := arguments.hasAny ["r", "t", "check"]
      || Showing.asksForPatch arguments
      || arguments.hasAny Showing.countFormats
    let changes ← Showing.chosen arguments style
      (Differences.changes (Showing.followingAsked site arguments) rows)
    let names := changedItems rows
    if !names.isEmpty && !arguments.has "quiet" then
      match title?, arguments.has "no-commit-id" with
      | some id, false => Job.say id
      | _, _ => pure ()
      if isDeep then
        Showing.printChanges arguments style true (fun _ => true) changes
      else printItems arguments old new names
    let isFaulty := arguments.has "check"
      && changes.any (Showing.isFaulty desk desk.lens style)
    return Showing.codeFor arguments (!names.isEmpty) isFaulty

/- Read the arguments of a command that prints commits. -/
def printingArguments (args : List String) : Job Arguments := do
  let arguments ← Job.attempt (Showing.argumentsOf logRules args)
  let isQuiet := arguments.has "quiet"
  if isQuiet && arguments.hasAny Showing.lonelyFormats then
    Job.fatal ("options '--name-only', '--name-status', '--check', and '-s' "
      ++ "cannot be used together")
  Showing.checkFormats arguments
  return arguments

/- What the exit code tells of the changes of commits. -/
def codeOf (arguments : Arguments) (commits : List Commit) : Job Int := do
  let desk ← get
  let isAsked := arguments.hasAny ["check", "exit-code"]
  if !isAsked then return 0
  let style ← Showing.styleFor desk.site .commitsOnly arguments
  let changes := commits.flatMap (changesOf desk arguments)
  if arguments.has "check" then
    return if changes.any (Showing.isFaulty desk desk.lens style) then 2
      else 0
  return if changes.isEmpty then 0 else 1

/- Print commits. -/
def log (args : List String) : Job Int := do
  let arguments ← printingArguments args
  let ids ← askedFor arguments
  let mut commits : List Commit := []
  for id in ids do
    let desk ← get
    match desk.world.archive.commit? id with
    | some c =>
      commits := c :: commits
      printCommit arguments id c
      if Showing.asksForAny arguments then
        showChanges arguments (changesOf desk arguments c)
    | none => pure ()
  codeOf arguments commits

/- Print the names of commits. -/
def revisionList (args : List String) : Job Int := do
  let arguments ← Job.attempt (Showing.argumentsOf logRules args)
  if arguments.words.isEmpty && !arguments.hasAny ["all", "branches"] then
    throw (.usage "usage: git rev-list [<options>] <commit>...")
  let ids ← askedFor arguments
  if arguments.has "count" then
    Job.say (toString ids.length)
  else
    for id in ids do
      Job.say id
  return 0

/- Print something that is kept. -/
def show' (args : List String) : Job Int := do
  let arguments ← printingArguments args
  let mut commits : List Commit := []
  let desk ← get
  let words := if arguments.words.isEmpty then [headName]
    else arguments.words
  for word in words do
    match desk.site.object? desk.world word with
    | some (_, .blob content) => Job.print content
    | some (_, .tree files) =>
      for (p, _) in files do
        Job.say p
    | _ =>
      match desk.site.commitId? desk.world word with
      | some id =>
        match desk.world.archive.commit? id with
        | some c =>
          commits := c :: commits
          printCommit arguments id c
          showChanges arguments (changesOf desk arguments c)
        | none => pure ()
      | none => Questions.ambiguous word
  codeOf arguments commits

------------------------------------------------------------
-- References
------------------------------------------------------------

/- Print references. -/
def listReferences (args : List String) : Job Int := do
  let arguments ← Job.attempt (Arguments.ofTexts
    [ "head", "heads", "branches", "tags", "d|dereference", "s|hash?",
      "verify", "exists", "abbrev?", "q|quiet", "exclude-existing?" ] args)
  let desk ← get
  let site := desk.site
  let t := desk.files
  let fronts := (if arguments.hasAny ["heads", "branches"] then [branchStart]
      else []) ++ if arguments.has "tags" then [tagStart] else []
  let all := site.references t referenceStart
  let shown := all.filter fun name =>
    (fronts.isEmpty || fronts.any (fun front => name.startsWith front))
      && (arguments.words.isEmpty || arguments.words.any fun word =>
        name == word || name.endsWith ("/" ++ word))
  let shown := if arguments.has "verify" then
      arguments.words.filter (fun name => (site.reference? t name).isSome)
    else shown
  if arguments.has "verify" && shown.length != arguments.words.length then
    if arguments.has "quiet" then Job.fail 1 ""
    Job.fatal "not a valid ref"
  if !arguments.has "quiet" then
    for name in shown do
      let id := (site.reference? t name).getD ""
      Job.say (if arguments.has "hash" then id else id ++ " " ++ name)
  return if shown.isEmpty then 1 else 0

/- Print references in a format. -/
def eachReference (args : List String) : Job Int := do
  let arguments ← Job.attempt (Arguments.ofTexts
    [ "format=", "sort=", "count=", "points-at=", "merged?", "no-merged?",
      "contains?", "no-contains?", "s|shell", "p|perl", "python", "tcl",
      "color?", "i|ignore-case", "omit-empty" ] args)
  let desk ← get
  let site := desk.site
  let names := (site.references desk.files referenceStart).filter
    fun name =>
      arguments.words.isEmpty || arguments.words.any fun word =>
        name == word || name.startsWith (word ++ "/")
          || (word.endsWith "/" && name.startsWith word)
          || Wildcard.fits ⟨true, false⟩ word name
  for name in names do
    let id := (site.reference? desk.files name).getD ""
    let text := match arguments.value? "format" with
      | none => id ++ " commit\t" ++ name
      | some format =>
        let replace (text word value : String) : String :=
          Text.joinWith value (text.splitOn ("%(" ++ word ++ ")"))
        replace (replace (replace format "refname:short" (shortName name))
          "refname" name) "objectname" id
    Job.say text
  return 0

/- Print or test what two commits have in common. -/
def mergeBase (args : List String) : Job Int := do
  let arguments ← Job.attempt (Arguments.ofTexts
    ["a|all", "octopus", "independent", "is-ancestor", "fork-point"] args)
  let desk ← get
  let ids ← arguments.all.mapM fun word => do
    match desk.site.commitId? desk.world word with
    | some id => pure id
    | none => Job.fatal ("Not a valid object name " ++ word)
  match arguments.has "is-ancestor", ids with
  | true, [a, b] => return if Site.isAncestor desk.world a b then 0 else 1
  | false, a :: b :: _ =>
    match Site.mergeBases desk.world a b with
    | [] => return 1
    | base :: more =>
      Job.say base
      if arguments.has "all" then
        for other in more do
          Job.say other
      return 0
  | _, _ => throw (.usage "usage: git merge-base <commit> <commit>...")

------------------------------------------------------------
-- Things That Are Kept
------------------------------------------------------------

/- Print a kind, a size or a content of something kept. -/
def object (args : List String) : Job Int := do
  let desk ← get
  let site := desk.site
  let (mode, word) ← match args with
    | [mode, word] => pure (mode, word)
    | _ => throw (.usage "usage: git cat-file <type> <object>")
  let found : Option (String × List UInt8) :=
    (site.object? desk.world word).map fun (_, kept) =>
      match kept with
      | .commit c =>
        ("commit", RawByte.encode ("tree " ++ treeId c.files ++ "\n"
          ++ String.join (c.parents.map fun p => "parent " ++ p ++ "\n")
          ++ "\n" ++ c.message))
      | .blob content => ("blob", content)
      | .tree files =>
        ("tree", RawByte.encode (String.join
          (files.map fun (p, file) => modeOf file ++ " blob "
            ++ fileId file ++ "\t" ++ p ++ "\n")))
      | .tag target =>
        ("tag", RawByte.encode ("object " ++ target ++ "\n"))
  match mode, found with
  | "-e", some _ => return 0
  | "-e", none => return 1
  | _, none => Job.fatal ("Not a valid object name " ++ word)
  | "-t", some (kind, _) =>
    Job.say kind
    return 0
  | "-s", some (_, content) =>
    Job.say (toString content.length)
    return 0
  | "-p", some (_, content) =>
    Job.print content
    return 0
  | kind, some (found, content) =>
    if kind == found then
      Job.print content
      return 0
    else Job.fatal ("git cat-file " ++ word ++ ": bad file")

/- List the files of a commit. -/
def listTree (args : List String) : Job Int := do
  let arguments ← Job.attempt (Arguments.ofTexts
    [ "d", "r", "t", "z", "l|long", "name-only", "name-status",
      "object-only", "full-name", "full-tree", "abbrev?", "format=" ] args)
  let desk ← get
  match arguments.all with
  | [] => throw (.usage "usage: git ls-tree [<options>] <tree-ish>")
  | word :: paths =>
    match desk.site.tree? desk.world word with
    | none => Job.fatal ("Not a valid object name " ++ word)
    | some files =>
      let ending := if arguments.has "z" then "\x00" else "\n"
      let isMeant (p : Path) : Bool :=
        paths.isEmpty || paths.any fun q =>
          p == q || p.startsWith (q ++ "/")
            || (q.endsWith "/" && p.startsWith q)
      let sorted := (files.filter (fun (p, _) => isMeant p)).mergeSort
        (fun a b => RawByte.precedes a.1 b.1)
      let shown (mode kind id p : String) : String :=
        if arguments.hasAny ["name-only", "name-status"] then p ++ ending
        else mode ++ " " ++ kind ++ " " ++ id ++ "\t" ++ p ++ ending
      let rows := sorted.map fun (p, file) =>
        match namesOf p with
        | first :: _ :: _ =>
          if arguments.has "r" then
            shown (modeOf file) "blob" (fileId file) p
          else shown "040000" "tree" "" first
        | _ => shown (modeOf file) "blob" (fileId file) p
      Job.print (RawByte.encode (String.join rows.eraseDups))
      return 0

/- Print the digests of files, and keep them if asked to. -/
def digest (args : List String) : Job Int := do
  let arguments ← Job.attempt (Arguments.ofTexts
    ["t=", "w", "stdin", "stdin-paths", "no-filters", "literally", "path="]
    args)
  let desk ← get
  let contents ← arguments.all.mapM fun p => do
    match desk.files.read? desk.site.call.cwd p with
    | some content => pure content
    | none =>
      Job.fatal ("could not open '" ++ p
        ++ "' for reading: No such file or directory")
  let contents :=
    if arguments.has "stdin" then desk.site.call.stdin :: contents
    else contents
  for content in contents do
    if arguments.has "w" then Job.keep (blobId content) (.blob content)
    Job.say (blobId content)
  return 0

/- Keep the index as a tree. -/
def writeTree : Job Int := do
  let desk ← get
  if desk.index.any (fun e => e.stage != 0) then
    Job.fatal "write-tree: error building trees"
  let files := desk.index.snapshot
  let id := treeId files
  Job.keep id (.tree files)
  Job.say id
  return 0

/- Read trees into the index. -/
def readTree (args : List String) : Job Int := do
  let arguments ← Job.attempt (Arguments.ofTexts
    [ "index-output=", "empty", "v|verbose", "m", "trivial", "aggressive",
      "reset", "prefix=", "u", "exclude-per-directory=", "i", "n|dry-run",
      "sparse-checkout", "debug-unpack", "recurse-submodules?", "q|quiet" ]
    args)
  let desk ← get
  let trees ← arguments.all.mapM fun word => do
    match desk.site.tree? desk.world word with
    | some files => pure files
    | none => Job.fatal ("Not a valid object name " ++ word)
  let refuse (refused : List Path) : Job Unit := do
    match refused.head? with
    | some p =>
      Job.fail 128 ("error: Entry '" ++ p ++ "' not uptodate. Cannot merge.")
    | none => pure ()
  match trees with
  | [] =>
    if !arguments.has "empty" then
      Job.complain "warning: read-tree: emptying the index with no arguments"
    Job.changeIndex fun _ => []
  | [files] =>
    match arguments.value? "prefix" with
    | some front =>
      let moved : Snapshot := files.map fun (p, file) =>
        ((if front.endsWith "/" then front else front ++ "/") ++ p, file)
      Job.changeIndex fun index =>
        moved.foldl (fun index (p, file) => index.put (Entry.of p file)) index
    | none =>
      if arguments.has "reset" && arguments.has "u" then
        Switching.force files
      else if arguments.has "m" && arguments.has "u" then
        refuse (← Switching.toClean files)
      else if arguments.has "m" || arguments.has "reset" then
        Switching.setIndex files
      else
        Job.changeIndex fun _ => Index.ofSnapshot files
  | old :: new :: _ =>
    if arguments.has "u" then
      refuse (← Switching.between false old new)
    else Switching.setIndex new
  if !arguments.has "dry-run" then Job.saveIndex
  return 0

/- Make a commit of a tree. -/
def commitTree (args : List String) : Job Int := do
  let arguments ← Job.attempt (Arguments.ofTexts
    ["p=", "m=", "F=", "S|gpg-sign?"] args)
  let desk ← get
  let idOf (word : String) : Job String := do
    match desk.site.commitId? desk.world word with
    | some id => pure id
    | none => Job.fatal ("not a valid object name " ++ word)
  match arguments.all with
  | [word] =>
    match desk.site.tree? desk.world word with
    | none => Job.fatal ("not a valid object name " ++ word)
    | some files =>
      Committing.checkPeople
      let parents ← (arguments.values "p").mapM idOf
      let message :=
        if (arguments.values "m").isEmpty then
          RawByte.decode desk.site.call.stdin
        else String.join ((arguments.values "m").map (· ++ "\n"))
      Job.say (← Job.makeCommit parents files message)
      return 0
  | _ => throw (.usage "usage: git commit-tree <tree>")

/- Write files of the index into the work tree. -/
def checkoutIndex (args : List String) : Job Int := do
  let arguments ← Job.attempt (Arguments.ofTexts
    [ "a|all", "f|force", "q|quiet", "n|no-create", "u|index", "z",
      "stdin", "temp", "prefix=", "stage=", "ignore-skip-worktree-bits" ]
    args)
  let desk ← get
  let site := desk.site
  let front := arguments.value? "prefix"
  let lens := desk.lens
  let mut code : Int := 0
  let names ← arguments.all.mapM fun word =>
    Job.attempt ((Spec.namesFromTop site desk.files site.inner word).map
      WorkTree.pathOf)
  let paths := if arguments.has "all" then desk.index.paths else names
  for p in paths do
    match desk.index.merged? p with
    | none => code := 1
    | some e =>
      let dest := front.getD "" ++ p
      if e.skipped && !arguments.has "ignore-skip-worktree-bits" then
        if !arguments.has "all" then code := 1
        continue
      let isTaken := (WorkTree.nodeAt? site desk.files dest).isSome
      let isCurrent := front.isNone
        && WorkTree.seen? site desk.files lens (some e) p == some e.file
      if isCurrent then pure ()
      else if isTaken && !arguments.has "force" then
        code := 1
      else
        Job.changeFiles fun t => WorkTree.layOut site lens t dest e.file
  return code

/- Print what references were before. -/
def references (args : List String) : Job Int := do
  let desk ← get
  let site := desk.site
  match args with
  | "expire" :: _ => return 0
  | "delete" :: _ => return 0
  | "exists" :: name :: _ =>
    return if (desk.files.node? (site.logFile name)).isSome then 0 else 1
  | args =>
    let words := (if args.head? == some "show" then args.drop 1 else args)
      |>.filter (fun word => !word.startsWith "-")
    let name := words.head?.getD headName
    match site.named? desk.files name with
    | none => Questions.ambiguous name
    | some full =>
      for (line, n) in (site.log desk.files full).zipIdx do
        Job.say (short line.new ++ " " ++ name ++ "@\x7b" ++ toString n
          ++ "\x7d: " ++ line.message)
      return 0

end Histories

end Versions

end Sandbox

end TreeLint
