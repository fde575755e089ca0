import TreeLint.Sandbox.Versions.Settings

/-
  What settings have to look like.

  Key definitions include:
    * `Demand`
    * `Demand.isMet`
    * `Demands.check`

  Some settings answer a question, some are numbers, some are
  one of a few words.  A command reads all settings before it
  does anything, and it gives up when one of those that it
  knows makes no sense.
-/

------------------------------------------------------------
-- Demands
------------------------------------------------------------

namespace TreeLint

namespace Sandbox

namespace Versions

/- What the value of a setting has to be. -/
inductive Demand where
  | truth
  /- An answer, or one of some words. -/
  | truthOr (words : List String)
  | oneOf (words : List String)
  /- Some of some words, with commas between them. -/
  | someOf (words : List String)
  /- A text, which may be empty, but not no value at all. -/
  | text
  | path
  | color
  | integer
  /- An integer that is not negative. -/
  | count
  /- An integer from minus one to nine. -/
  | level
  /- A number of any size that is not negative. -/
  | size
  /- How many digits are enough. -/
  | digits
  /- One character, or a word that leaves the choice open. -/
  | sign
  /- An answer, or a path. -/
  | truthOrPath
  /- Who may read and write what is shared. -/
  | permission
  /- How lists are laid out. -/
  | layout
  /- What is fetched, and under which name it is kept. -/
  | exchange
  /- The name of what a list is sorted by. -/
  | order
  /- There has to be a value, and one that is asked for. -/
  | given (demand : Demand)
deriving DecidableEq, Repr

namespace Demand

/- The words for attributes of a text on a terminal. -/
def strokes : List String :=
  ["bold", "dim", "italic", "ul", "blink", "reverse", "strike"]

/- The words for colors. -/
def colors : List String :=
  [ "black", "red", "green", "yellow", "blue", "magenta", "cyan",
    "white", "default", "normal" ]

/- Whether a word stands for a color or an attribute. -/
def isColorWord (word : String) : Bool :=
  let word := word.toLower
  let stripped (front : String) : String :=
    if word.startsWith front then
      String.ofList (word.toList.drop front.length)
    else word
  let isHex := match word.toList with
    | '#' :: hex =>
      (hex.length == 6 || hex.length == 3)
        && hex.all (fun c => (Numeral.digit? 16 c).isSome)
    | _ => false
  word == "reset" || isHex
    || colors.contains (stripped "bright")
    || strokes.contains word
    || strokes.contains (stripped "no-")
    || strokes.contains (stripped "no")
    || (Settings.integer? word).any (fun n => -1 ≤ n && n ≤ 255)

/- Whether a number of any size is not negative. -/
def isSize (value : String) : Bool :=
  let text := Settings.trimStart value.toList
  let digits := (Settings.digits text).2.1
  !digits.isEmpty && (Settings.factor? (Settings.digits text).2.2).isSome

/- The path that no user has. -/
def isHomeless (p : Path) : Bool :=
  p.startsWith "~" && !p.startsWith "~/" && p != "~"
    && !p.startsWith "~root/" && p != "~root"

/- Whether a text says who may read and write what is shared. -/
def isPermission (value : String) : Bool :=
  let words := ["umask", "group", "all", "world", "everybody"]
  let text := Settings.trimStart value.toList
  let digits := match text with
    | '-' :: rest => rest
    | '+' :: rest => rest
    | rest => rest
  words.contains value || text.isEmpty
    || (match Numeral.natural? 8 digits with
      | some n => n ≤ 2 || (n / 64) % 8 ≥ 6 || text.head? == some '-'
      | none => (Settings.boolean? (some value)).isSome)

/- The words for how lists are laid out. -/
def layouts : List String :=
  ["always", "never", "auto", "plain", "column", "row", "dense", "nodense"]

/- What lists can be sorted by. -/
def orders : List String :=
  [ "refname", "objecttype", "objectsize", "objectname", "creatordate",
    "committerdate", "authordate", "taggerdate", "version:refname",
    "v:refname", "upstream", "HEAD", "subject", "authorname",
    "committername" ]

/- Whether the value of a setting is what it has to be. -/
def isMet (demand : Demand) (value : Option String) : Bool :=
  let isTruth := (Settings.boolean? value).isSome
  match demand, value with
  | truth, _ => isTruth
  | truthOr words, some value => isTruth || words.contains value.toLower
  | truthOr _, none => true
  | oneOf words, some value => words.contains value
  | someOf words, some value =>
    (Text.splitAt ',' value).all words.contains
  | text, some _ => true
  | path, some p => !isHomeless p
  | color, some value =>
    ((Text.pieces Settings.isSpace value.toList).filter
      (fun word => !word.isEmpty)).all
      (fun word => isColorWord (String.ofList word))
  | integer, some value => (Settings.integer? value).isSome
  | count, some value => (Settings.integer? value).any (0 ≤ ·)
  | level, some value =>
    (Settings.integer? value).any (fun n => -1 ≤ n && n ≤ 9)
  | size, some value => isSize value
  | digits, some value =>
    value.toLower == "auto"
      || ["false", "no", "off", ""].contains value.toLower
      || (Settings.integer? value).any (4 ≤ ·)
  | sign, some value =>
    value.toLower == "auto"
      || (value.length == 1 && value != "\n"
        && value.toList.all (fun c => c.toNat < 128))
  | truthOrPath, some p => isTruth || !isHomeless p
  | truthOrPath, none => true
  | permission, some value => isPermission value
  | permission, none => true
  | layout, some value =>
    ((Text.pieces (fun c => c == ' ' || c == ',') value.toList).filter
      (fun word => !word.isEmpty)).all
      (fun word => layouts.contains (String.ofList word))
  | exchange, some value =>
    !value.toList.any "~^?[\\ \t".toList.contains
      && (value.splitOn "..").length == 1
  | order, some value =>
    orders.contains
      (if value.startsWith "-" then String.ofList (value.toList.drop 1)
        else value)
  | given inner, some _ => inner.isMet value
  | _, none => false

end Demand

------------------------------------------------------------
-- Lists Of Rules
------------------------------------------------------------

/- What is demanded of the setting of a name, if anything is. -/
abbrev Rules := String → Option Demand

namespace Rules

/- The rules of a list. -/
def ofList (list : List (String × Demand)) : Rules :=
  fun name => list.lookup name

/- Names of settings behind a beginning, with one demand. -/
def behind (front names : String) (demand : Demand) :
    List (String × Demand) :=
  (Text.splitAt ' ' names).map (fun name => (front ++ name, demand))

/-
  The rules for settings of many things of a kind: the kind
  is in front and what is told about the thing is behind.
-/
def ofThings (kind : String) (list : List (String × Demand)) : Rules :=
  fun name =>
    match Text.splitAt '.' name with
    | first :: second :: third :: more =>
      if first == kind then
        list.lookup ((second :: third :: more).getLast?.getD "")
      else none
    | _ => none

end Rules

namespace Demands

open Rules

------------------------------------------------------------
-- What Every Command Demands
------------------------------------------------------------

/- The words for when something is colored. -/
def colorWords : List String := ["never", "always", "auto"]

/- The advice that can be switched off. -/
def advice : List (String × Demand) :=
  behind "advice." ("addembeddedrepo addemptypathspec addignoredfile "
    ++ "amworkdir ambiguousfetchrefspec "
    ++ "checkoutambiguousremotebranchname commitbeforemerge detachedhead "
    ++ "diverging fetchshowforcedupdates graftfiledeprecated ignoredhook "
    ++ "implicitidentity nestedtag objectnamewarning pushalreadyexists "
    ++ "pushfetchfirst pushneedsforce pushnonfastforward pushnonffcurrent "
    ++ "pushnonffmatching pushrefneedsupdate pushunqualifiedrefname "
    ++ "pushupdaterejected resetnorefresh resolveconflict rmhints "
    ++ "sequencerinuse setupstreamfailure skippedcherrypicks "
    ++ "statusaheadbehindwarning statushints statusuoption "
    ++ "submodulealternateerrorstrategydie submodulesnotupdated "
    ++ "suggestdetachinghead updatesparsepath waitingforeditor "
    ++ "worktreeaddorphan") .truth

/- The settings of the core that answer a question. -/
def coreTruths : List (String × Demand) :=
  behind "core." ("bare commitgraph filemode fsyncobjectfiles ignorecase "
    ++ "ignorestat multipackindex precomposeunicode prefersymlinkrefs "
    ++ "preloadindex protecthfs protectntfs quotepath sparsecheckout "
    ++ "sparsecheckoutcone symlinks trustctime usereplacerefs "
    ++ "warnambiguousrefs") .truth

/- Other settings that answer a question. -/
def otherTruths : List (String × Demand) :=
  behind "" ("color.pager commitgraph.readchangedpaths "
    ++ "extensions.worktreeconfig feature.experimental "
    ++ "feature.manyfiles fetch.writecommitgraph gc.writecommitgraph "
    ++ "index.skiphash index.sparse "
    ++ "pack.readreverseindex pack.usebitmapboundarytraversal "
    ++ "pack.usesparse pager.color "
    ++ "sparse.expectfilesoutsideofpatterns user.useconfigonly") .truth

/- Settings that are texts. -/
def texts : List (String × Demand) :=
  behind "" ("attr.tree author.email author.name committer.email "
    ++ "committer.name core.askpass core.editor core.fsync "
    ++ "core.fsyncmethod core.untrackedcache core.whitespace "
    ++ "core.checkroundtripencoding core.checkstat core.notesref "
    ++ "extensions.partialclone i18n.commitencoding "
    ++ "i18n.logoutputencoding mailmap.blob user.email user.name") .text

/- What every command demands. -/
def general : Rules :=
  Rules.ofList <| advice ++ coreTruths ++ otherTruths ++ texts
    ++ behind "" ("core.attributesfile core.excludesfile core.hookspath "
      ++ "mailmap.file") .path
    ++ behind "" ("core.bigfilethreshold core.deltabasecachelimit "
      ++ "core.packedgitlimit core.packedgitwindowsize "
      ++ "pack.packsizelimit") .size
    ++ behind "" ("commitgraph.generationversion core.maxtreedepth "
      ++ "index.version") .integer
    ++ behind "" "core.compression core.loosecompression pack.compression"
      .level
    ++ [ ("branch.autosetupmerge", .truthOr ["always", "inherit", "simple"]),
      ("branch.autosetuprebase",
        .oneOf ["never", "local", "remote", "always"]),
      ("core.autocrlf", .truthOr ["input"]),
      ("core.safecrlf", .truthOr ["warn"]),
      ("core.logallrefupdates", .truthOr ["always"]),
      ("core.createobject", .oneOf ["rename", "link"]),
      ("core.abbrev", .digits),
      ("core.commentchar", .sign),
      ("color.advice", .truthOr colorWords),
      ("color.advice.hint", .color),
      ("push.default",
        .oneOf ["nothing", "matching", "simple", "upstream", "tracking",
          "current"]),
      ("fetch.negotiationalgorithm",
        .oneOf ["noop", "skipping", "consecutive", "default"]) ]

------------------------------------------------------------
-- What Parts Of Commands Demand
------------------------------------------------------------

/- What reading an index demands. -/
def ofIndex : Rules :=
  Rules.ofList
    [("index.threads", .truth), ("core.fsmonitor", .truthOrPath)]

/- What writing an index demands. -/
def ofWriting : Rules :=
  Rules.ofList
    [ ("core.sharedrepository", .permission),
      ("index.recordendofindexentries", .truth) ]

/- What looking for objects demands. -/
def ofObjects : Rules :=
  ofThings "remote"
    [("promisor", .truth), ("partialclonefilter", .text)]

/- What changing references demands. -/
def ofReferences : Rules :=
  Rules.ofList
    [ ("core.filesreflocktimeout", .integer),
      ("core.sharedrepository", .permission) ]

/- What removing references demands. -/
def ofRemoval : Rules :=
  Rules.ofList [("core.packedrefstimeout", .integer)]

/- What converting files demands. -/
def ofFilters : Rules :=
  ofThings "filter"
    [("clean", .text), ("smudge", .text), ("process", .text)]

/- What is told about a driver of differences. -/
def ofDrivers : Rules :=
  ofThings "diff"
    [ ("binary", .truthOr ["auto"]), ("cachetextconv", .truth),
      ("command", .text), ("textconv", .text), ("wordregex", .text),
      ("xfuncname", .text), ("funcname", .text) ]

/- The parts of a difference that have a color. -/
def colored : String :=
  "commit context contextbold contextdimmed frag func "
    ++ "meta new newbold newdimmed newmoved newmovedalternative "
    ++ "newmovedalternativedimmed newmoveddimmed old oldbold olddimmed "
    ++ "oldmoved oldmovedalternative oldmovedalternativedimmed "
    ++ "oldmoveddimmed plain whitespace"

/- What finding differences demands. -/
def ofPlainDifferences : Rules :=
  Rules.ofList <| behind "color.diff." colored .color
    ++ behind "diff.color." colored .color
    ++ behind "diff." "indentheuristic suppressblankempty" .truth
    ++ [ ("diff.renamelimit", .integer), ("diff.dirstat", .text),
      ("core.maxtreedepth", .count),
      ("diff.wserrorhighlight", .someOf ["", "none", "default", "all",
        "new", "old", "context"]) ]

/- What the state of nested repositories demands. -/
def ofNested : Rules :=
  Rules.ofList
    [ ("diff.ignoresubmodules",
        .oneOf ["all", "untracked", "dirty", "none"]) ]

/- What showing differences demands. -/
def ofShownDifferences : Rules :=
  Rules.ofList <|
    behind "diff." ("autorefreshindex mnemonicprefix noprefix "
      ++ "relative") .truth
    ++ behind "" "color.diff color.ui diff.color" (.truthOr colorWords)
    ++ behind "diff." "external wordregex submodule" .text
    ++ behind "diff." "statgraphwidth statnamewidth" .integer
    ++ behind "diff." "context interhunkcontext" .count
    ++ [ ("diff.renames", .truthOr ["copies", "copy"]),
        ("diff.colormoved", .truthOr ["no", "default", "blocks", "zebra",
          "dimmed-zebra", "dimmed_zebra", "plain"]),
        ("diff.colormovedws", .someOf ["no", "ignore-space-change",
          "ignore-space-at-eol", "ignore-all-space",
          "allow-indentation-change"]),
        ("diff.algorithm", .oneOf ["myers", "default", "minimal",
          "patience", "histogram"]),
        ("diff.orderfile", .path) ]

/- What writing files into the work tree demands. -/
def ofUnpacking : Rules :=
  Rules.ofList
    (behind "checkout." "workers thresholdforparallelism" .integer)

/- What going to another branch demands. -/
def ofSwitching : Rules :=
  Rules.ofList
    [ ("checkout.guess", .truth), ("submodule.recurse", .truth),
      ("merge.conflictstyle", .oneOf ["merge", "diff3", "zdiff3"]) ]

/- What a list in columns demands. -/
def ofColumns (kind : String) : Rules :=
  Rules.ofList
    [("column.ui", .layout), ("column." ++ kind, .layout)]

/- What telling the state of the work tree demands. -/
def ofStatus : Rules :=
  Rules.ofList <|
    behind "color.status." ("added branch changed header localbranch "
      ++ "nobranch remotebranch unmerged untracked updated") .color
    ++ behind "status." ("aheadbehind branch displaycommentprefix "
      ++ "relativepaths short showstash submodulesummary") .truth
    ++ [ ("color.status", .truthOr colorWords),
      ("status.renames", .truthOr ["copies", "copy"]),
      ("status.renamelimit", .integer),
      ("status.showuntrackedfiles", .oneOf ["no", "normal", "all"]) ]

/- What making a commit demands. -/
def ofCommits : Rules :=
  Rules.ofList <|
    behind "" ("commit.gpgsign commit.status commit.verbose "
      ++ "maintenance.auto rerere.autoupdate rerere.enabled") .truth
    ++ [("commit.cleanup", .text), ("commit.template", .path)]

/- The ways in which a message is tidied up. -/
def tidyings : List String :=
  ["verbatim", "whitespace", "strip", "scissors", "default"]

/- What joining files demands. -/
def ofJoining : Rules :=
  Rules.ofList <|
    behind "" "merge.renamelimit merge.verbosity" .integer
    ++ behind "" "merge.renames diff.renames"
      (.given (.truthOr ["copies", "copy"]))
    ++ [ ("merge.directoryrenames", .text), ("merge.renormalize", .truth),
      ("merge.conflictstyle", .oneOf ["merge", "diff3", "zdiff3"]) ]

/- What replaying commits demands. -/
def ofReplaying : Rules :=
  Rules.ofList
    [ ("commit.gpgsign", .truth), ("commit.cleanup", .text),
      ("revert.reference", .truth), ("pull.twohead", .text) ]

/- What joining branches demands. -/
def ofMerging : Rules :=
  Rules.ofList <|
    behind "" ("merge.autostash merge.branchdesc "
      ++ "merge.defaulttoupstream merge.stat stash.showincludeuntracked "
      ++ "stash.showpatch stash.showstat maintenance.auto "
      ++ "commit.gpgsign") .truth
    ++ behind "" "merge.suppressdest pull.octopus pull.twohead" .text
    ++ [ ("merge.ff", .truthOr ["only"]), ("merge.log", .truth),
      ("commit.cleanup", .oneOf tidyings) ]

/- What a branch is told about being merged. -/
def ofMergeOptions : Rules :=
  ofThings "branch" [("mergeoptions", .text)]

/- What moving commits demands. -/
def ofRebasing : Rules :=
  Rules.ofList <|
    behind "rebase." ("abbreviatecommands autosquash autostash forkpoint "
      ++ "reschedulefailedexec stat updaterefs") .truth
    ++ [ ("rebase.rebasemerges", .truthOr ["rebase-cousins",
        "no-rebase-cousins"]),
      ("rebase.missingcommitscheck", .text),
      ("rebase.backend", .oneOf ["apply", "merge"]) ]

/- What putting changes aside demands. -/
def ofShelving : Rules :=
  Rules.ofList <|
    behind "stash." "showincludeuntracked showpatch showstat" .truth
    ++ [("submodule.recurse", .truth)]

/- What is told about other repositories and what follows them. -/
def ofRemotes : List Rules :=
  [ ofThings "remote" <|
      behind "" ("proxy proxyauthmethod pushurl receivepack uploadpack "
        ++ "url vcs tagopt") .text
      ++ behind "" "mirror prune prunetags skipdefaultupdate skipfetchall"
        .truth
      ++ [("fetch", .exchange), ("push", .exchange)],
    ofThings "branch"
      [("merge", .text), ("pushremote", .text), ("remote", .text)],
    ofThings "url" [("insteadof", .text), ("pushinsteadof", .text)],
    Rules.ofList [("remote.pushdefault", .text)] ]

/- What listing branches demands. -/
def ofBranches : Rules :=
  Rules.ofList <|
    behind "" "color.branch color.ui" (.truthOr colorWords)
    ++ behind "color.branch." ("current local plain remote reset upstream "
      ++ "worktree") .color
    ++ behind "submodule." "propagatebranches recurse" .truth
    ++ [("branch.sort", .text)]

/- What listing tags demands. -/
def ofTags : Rules :=
  Rules.ofList
    [ ("color.ui", .truthOr colorWords), ("tag.gpgsign", .truth),
      ("tag.forcesignannotated", .truth), ("tag.sort", .order) ]

/- What cleaning the work tree demands. -/
def ofCleaning : Rules :=
  Rules.ofList <|
    behind "" "color.interactive color.ui" (.truthOr colorWords)
    ++ behind "color.interactive." "error header help plain prompt reset"
      .color
    ++ [("clean.requireforce", .truth)]

/- What telling a history demands. -/
def ofHistories : Rules :=
  Rules.ofList <|
    behind "color.decorate." ("branch grafted head remotebranch stash "
      ++ "tag") .color
    ++ behind "color.grep." ("column context filename function "
      ++ "linenumber match matchcontext matchselected selected "
      ++ "separator") .color
    ++ behind "" ("grep.column grep.extendedregexp grep.fullname "
      ++ "grep.linenumber log.abbrevcommit log.follow log.mailmap "
      ++ "log.showroot log.showsignature") .truth
    ++ [ ("color.grep", .truthOr colorWords),
      ("grep.patterntype", .oneOf ["default", "basic", "extended",
        "fixed", "perl"]),
      ("log.diffmerges", .oneOf ["off", "none", "on", "first-parent", "1",
        "separate", "combined", "c", "dense-combined", "cc", "remerge",
        "r", "m"]) ]

------------------------------------------------------------
-- What Each Command Demands
------------------------------------------------------------

/- The rules that commands of a kind have in common. -/
inductive Trait where
  | readsIndex
  | writesIndex
  | convertsFiles
  | readsObjects
  | findsDifferences
  | showsDifferences
  | changesReferences
  | switches
  | joins
deriving DecidableEq

/- The rules behind a trait. -/
def Trait.rules : Trait → List Rules
  | readsIndex => [ofIndex]
  | writesIndex => [ofIndex, ofWriting]
  | convertsFiles => [ofFilters]
  | readsObjects => [ofObjects]
  | findsDifferences => [ofPlainDifferences, ofDrivers]
  | showsDifferences =>
    [ofPlainDifferences, ofDrivers, ofShownDifferences, ofNested]
  | changesReferences => [ofReferences]
  | switches => [ofUnpacking, ofSwitching, ofNested]
  | joins => [ofUnpacking, ofJoining, ofRemoval]

/- The traits of a command, and what else it demands. -/
def traitsOf (command : String) : List Trait × List Rules :=
  let edits : List Trait := [.writesIndex, .convertsFiles]
  let replays : List Trait :=
    [ .writesIndex, .convertsFiles, .readsObjects, .findsDifferences,
      .changesReferences, .joins ]
  if ["rm", "mv", "update-index"].contains command then (edits, [])
  else if ["add", "stage"].contains command then (edits, [])
  else if command == "commit" then
    (edits ++ [.readsObjects, .showsDifferences, .changesReferences],
      [ofStatus, ofCommits, ofColumns "status"])
  else if command == "status" then
    (edits ++ [.readsObjects, .showsDifferences],
      [ofStatus, ofColumns "status"])
  else if command == "checkout" || command == "switch" then
    (edits ++ [.readsObjects, .switches, .changesReferences], [])
  else if command == "restore" then (edits ++ [.switches], [])
  else if command == "reset" then
    (edits ++ [.readsObjects, .changesReferences],
      [Rules.ofList [("submodule.recurse", .truth),
        ("core.maxtreedepth", .count)]])
  else if command == "stash" then (replays, [ofShelving])
  else if command == "clean" then
    ([.readsIndex], [ofCleaning, ofColumns "clean"])
  else if command == "merge" || command == "pull" then
    (replays ++ [.showsDifferences], [ofMerging, ofMergeOptions])
  else if command == "revert" || command == "cherry-pick" then
    (replays, [ofReplaying])
  else if command == "rebase" then (replays, [ofReplaying, ofRebasing])
  else if command == "branch" then
    ([.changesReferences],
      [ofBranches, ofColumns "branch"] ++ ofRemotes)
  else if command == "tag" then
    ([.changesReferences], [ofTags, ofColumns "tag"])
  else if ["diff", "diff-files"].contains command then
    ([.readsIndex, .convertsFiles, .readsObjects, .showsDifferences], [])
  else if ["diff-index", "diff-tree"].contains command then
    ([.readsIndex, .readsObjects, .findsDifferences], [])
  else if ["log", "show", "whatchanged"].contains command then
    ([.showsDifferences], [ofHistories])
  else if ["ls-files", "check-ignore"].contains command then
    ([.readsIndex], [])
  else if ["rev-parse", "symbolic-ref", "show-ref", "for-each-ref",
      "cat-file", "ls-tree", "rev-list", "merge-base"].contains command
  then
    ([], [])
  else if command == "update-ref" then ([.changesReferences], [])
  else ([.readsIndex], [])

/- All rules of a command. -/
def rulesOf (command : String) : List Rules :=
  let (traits, others) := traitsOf command
  general :: traits.flatMap Trait.rules ++ others

/- Settings without a value that no program survives. -/
def deadly : List String :=
  [ "core.checkroundtripencoding", "core.checkstat", "core.createobject",
    "core.notesref", "extensions.partialclone", "diff.colormovedws",
    "diff.dirstat", "diff.ignoresubmodules", "diff.submodule",
    "diff.wserrorhighlight", "grep.patterntype", "log.diffmerges",
    "rebase.missingcommitscheck" ]

/- The failure for a setting that is not as it has to be. -/
def failureOf (setting : Setting) : Failure :=
  let isOfThing := setting.name.endsWith ".tagopt"
    || setting.name.endsWith ".mergeoptions"
  if setting.value.isNone && (isOfThing || deadly.contains setting.name)
  then
    ⟨139, ""⟩
  else .fatal ("bad config value for '" ++ setting.name ++ "'")

/- Check settings by rules. -/
def check (rules : List Rules) (settings : List Setting) : Attempt Unit :=
  let isFine (setting : Setting) : Bool :=
    rules.all fun rule =>
      match rule setting.name with
      | some demand => demand.isMet setting.value
      | none => true
  match settings.find? (fun setting => !isFine setting) with
  | some setting => .error (failureOf setting)
  | none => .ok ()

end Demands

end Versions

end Sandbox

end TreeLint
