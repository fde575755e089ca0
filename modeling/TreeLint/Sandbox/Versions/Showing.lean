import TreeLint.Sandbox.Versions.Arguments
import TreeLint.Sandbox.Versions.Tallies
import TreeLint.Text.Regex.Reading

/-
  Showing changes in the formats that are asked for.

  Key definitions include:
    * `Showing.rules`
    * `Showing.following`
    * `Showing.styleFor`
    * `Showing.chosen`
    * `Showing.printChanges`

  Options say which changes are looked at, how names are
  followed, and in which formats changes are printed.  Several
  formats may be asked for at once.
-/

------------------------------------------------------------
-- Options
------------------------------------------------------------

namespace TreeLint

namespace Sandbox

namespace Versions

namespace Showing

/- The options for changes that every command understands. -/
def rules : List String :=
  [ "name-only", "name-status", "p|patch", "u", "s|no-patch", "raw",
    "stat?", "numstat", "shortstat", "summary", "patch-with-stat",
    "patch-with-raw", "renames", "M|find-renames?", "C|find-copies?",
    "find-copies-harder", "relative?", "z", "diff-filter=", "check",
    "U|unified=", "w|ignore-all-space", "b|ignore-space-change",
    "ignore-space-at-eol", "ignore-blank-lines", "ignore-cr-at-eol",
    "ext-diff", "textconv", "color?", "a|text", "R", "ignore-submodules?",
    "submodule?", "word-diff?", "word-diff-regex=", "color-words?",
    "minimal", "patience", "histogram", "diff-algorithm=", "anchored=",
    "D|irreversible-delete", "full-index", "binary", "abbrev?", "S=", "G=",
    "pickaxe-all", "pickaxe-regex", "l=", "O=", "W|function-context",
    "inter-hunk-context=", "dirstat?", "compact-summary",
    "indent-heuristic", "no-prefix", "default-prefix", "src-prefix=",
    "dst-prefix=", "line-prefix=", "color-moved?", "color-moved-ws=",
    "B|break-rewrites?", "output=", "cc", "c", "m", "r", "t",
    "ita-invisible-in-index", "ita-visible-in-index", "exit-code",
    "stat-width=", "stat-name-width=", "stat-graph-width=", "stat-count=",
    "output-indicator-new=", "output-indicator-old=", "rotate-to=",
    "skip-to=", "find-object=", "I|ignore-matching-lines=", "follow",
    "ws-error-highlight=" ]

/- The least similarity that a text asks for. -/
def scoreOf (text : String) : Nat :=
  let rec read (num scale : Nat) (hasDot : Bool) :
      List Char → Nat × Nat
    | '.' :: rest =>
      if hasDot then (num, scale) else read num 1 true rest
    | '%' :: _ => (num, if hasDot then scale * 100 else 100)
    | c :: rest =>
      if Numeral.isDigit c then
        if scale < 100000 then
          read (num * 10 + (c.toNat - 48)) (scale * 10) hasDot rest
        else read num scale hasDot rest
      else (num, scale)
    | [] => (num, scale)
  let (num, scale) := read 0 1 false text.toList
  let score := if scale ≤ num then Renames.fullScore
    else Renames.fullScore * num / scale
  if score == 0 then Renames.leastScore else score

/- How files are followed, by the settings and options. -/
def following (site : Site) (arguments : Arguments) :
    Option Renames.Following :=
  let configured := Differences.following? site
  let limit := match (arguments.value? "l").bind Settings.integer? with
    | some n => n.toNat
    | none => (configured.map Renames.Following.limit).getD 1000
  let least := (["find-renames", "find-copies"].findSome? fun name =>
    (arguments.value? name).map scoreOf).getD Renames.leastScore
  let copies := (arguments.options.filter fun given =>
    given.name == "find-copies").length
  let isThorough := arguments.has "find-copies-harder" || 1 < copies
  if arguments.hasNo "renames" then none
  else if isThorough || 0 < copies then
    some ⟨true, limit, least, isThorough⟩
  else if arguments.hasAny ["find-renames", "renames"] then
    some ⟨false, limit, least, false⟩
  else configured.map fun following => { following with limit, least }

/- How files are followed where only options can ask for it. -/
def followingAsked (site : Site) (arguments : Arguments) :
    Option Renames.Following :=
  if arguments.hasAny ["find-renames", "find-copies", "find-copies-harder"]
  then following site arguments
  else none

/- A number that an option or a setting gives. -/
def number (what : String) (text? : Option String) : Job (Option Nat) :=
  match text? with
  | none => pure none
  | some text =>
    match Numeral.natural? 10 text.toList with
    | some n => pure (some n)
    | none =>
      throw (.usage ("error: " ++ what ++ " expects a numerical value"))

/- What stands in front of the names on the two sides. -/
inductive Fronts where
  | commitsOnly
  | commitAndTree
  | commitAndIndex
  | indexAndTree
deriving DecidableEq

/- The names of the sides, where they have names of their own. -/
def Fronts.names : Fronts → String × String
  | commitsOnly => ("a/", "b/")
  | commitAndTree => ("c/", "w/")
  | commitAndIndex => ("c/", "i/")
  | indexAndTree => ("i/", "w/")

/- How changes are shown, by the settings and options. -/
def styleFor (site : Site) (fronts : Fronts) (arguments : Arguments) :
    Job Patch.Style := do
  let usual : Patch.Style := {}
  let context ← number "--unified" (arguments.value? "unified")
  let gap ← number "--inter-hunk-context"
    (arguments.value? "inter-hunk-context")
  let configured (name : String) : Option Nat :=
    ((site.text? name).bind Settings.integer?).map Int.toNat
  let isReversed := arguments.has "R"
  let named :=
    if site.flag "diff.noprefix" false then ("", "")
    else if site.flag "diff.mnemonicprefix" false then fronts.names
    else ("a/", "b/")
  let named := if isReversed then (named.2, named.1) else named
  let named :=
    if arguments.has "no-prefix" then ("", "")
    else if arguments.has "default-prefix" then ("a/", "b/")
    else named
  return {
    context := (context.orElse fun _ =>
      configured "diff.context").getD usual.context
    gap := (gap.orElse fun _ =>
      configured "diff.interhunkcontext").getD usual.gap
    oldFront := (arguments.value? "src-prefix").getD named.1
    newFront := (arguments.value? "dst-prefix").getD named.2
    idLength :=
      if arguments.hasAny ["full-index", "binary"] then 40
      else match (arguments.value? "abbrev").bind fun text =>
          Numeral.natural? 10 text.toList with
        | some n => max 4 n
        | none => if arguments.hasNo "abbrev" then 40 else usual.idLength
    ignoring :=
      if arguments.has "ignore-all-space" then .blanks
      else if arguments.has "ignore-space-change" then .amounts
      else if arguments.has "ignore-space-at-eol" then .blanksAtEnd
      else if arguments.has "ignore-cr-at-eol" then .returnsAtEnd
      else .nothing
    ignoresEmptyLines := arguments.has "ignore-blank-lines"
    takesText := arguments.has "text"
    hidesGone := arguments.has "irreversible-delete" }

/- Whether contents decide whether there is a change. -/
def dependsOnLines (style : Patch.Style) : Bool :=
  style.ignoring != .nothing || style.ignoresEmptyLines

------------------------------------------------------------
-- Which Changes
------------------------------------------------------------

/- Whether a change is among those that are asked for by letters. -/
def hasLetter (filter? : Option String) (change : Differences.Change) :
    Bool :=
  match filter? with
  | none => true
  | some filter =>
    let status := Patch.statusOf change
    let wanted := filter.toList.filter (fun c => c.isUpper)
    let unwanted := filter.toList.filter (fun c => c.isLower)
    (wanted.isEmpty || wanted.any (fun c => status == String.singleton c))
      && !unwanted.any (fun c => status == String.singleton c.toUpper)

/- How often some bytes occur in a content. -/
def occurrences (wanted : List UInt8) : List UInt8 → Nat
  | [] => 0
  | b :: rest =>
    (if wanted.isPrefixOf (b :: rest) then 1 else 0)
      + occurrences wanted rest

/- How often an expression matches from a position on. -/
def matchesFrom (re : Regex) (s : Regex.Subject) : Nat → Nat → Nat
  | 0, _ => 0
  | fuel + 1, i =>
    match re.find? s i with
    | some found => 1 + matchesFrom re s fuel (max found.stop (found.start + 1))
    | none => 0

/- An expression of an option. -/
def expression (text : String) : Job Regex :=
  match Regex.read ⟨true, false⟩ text.toList with
  | .ok re => pure re
  | .error _ => Job.fatal ("invalid regex: " ++ text)

/- A content as something that is searched. -/
def subject (content : List UInt8) : Regex.Subject :=
  ⟨(RawByte.decode content).toList.toArray, false, true⟩

/- The changes in which something that is looked for came or went. -/
def holding (arguments : Arguments) (style : Patch.Style)
    (changes : List Differences.Change) :
    Job (List Differences.Change) := do
  let sides (change : Differences.Change) : List UInt8 × List UInt8 :=
    let (old, new) := Patch.sidesOf change
    (Patch.bytesOf false old, Patch.bytesOf false new)
  let take (isFound : Differences.Change → Bool) :
      List Differences.Change :=
    if arguments.has "pickaxe-all" then
      if changes.any isFound then changes else []
    else changes.filter isFound
  match arguments.value? "S", arguments.value? "G" with
  | some _, some _ =>
    Job.fatal ("options '-G', '-S', and '--find-object' cannot be used "
      ++ "together")
  | some text, none =>
    if arguments.has "pickaxe-regex" then
      let re ← expression text
      let count (content : List UInt8) : Nat :=
        matchesFrom re (subject content) (content.length + 1) 0
      return take fun change =>
        let (old, new) := sides change
        count old != count new
    else
      let wanted := RawByte.encode text
      return take fun change =>
        let (old, new) := sides change
        occurrences wanted old != occurrences wanted new
  | none, some text =>
    let re ← expression text
    let isIn (line : Joining.Line) : Bool :=
      (re.find? (subject (if line.getLast? == some 10 then line.dropLast
        else line)) 0).isSome
    return take fun change =>
      let (old, new) := sides change
      let oldLines := Joining.linesOf old
      (Renames.isText old && Renames.isText new)
        && (Patch.hunksOf style oldLines (Joining.linesOf new)).any
          fun hunk =>
            hunk.added.any isIn
              || ((oldLines.drop hunk.start).take hunk.removed).any isIn
  | none, none => return changes

/- The changes that are asked for. -/
def chosen (arguments : Arguments) (style : Patch.Style)
    (changes : List Differences.Change) :
    Job (List Differences.Change) := do
  let found ← holding arguments style changes
  return found.filter (hasLetter (arguments.value? "diff-filter"))

------------------------------------------------------------
-- Formats
------------------------------------------------------------

/- The formats of which only one can be asked for. -/
def lonelyFormats : List String :=
  ["name-only", "name-status", "check", "no-patch"]

/- The formats with counts. -/
def countFormats : List String :=
  [ "stat", "numstat", "shortstat", "summary", "dirstat",
    "compact-summary", "patch-with-stat" ]

/- Whether it is asked that nothing is printed. -/
def asksForNothing (arguments : Arguments) : Bool :=
  arguments.has "no-patch" || arguments.hasNo "patch"

/- Whether changes are asked for line by line. -/
def asksForPatch (arguments : Arguments) : Bool :=
  arguments.hasAny ["patch", "u", "unified", "patch-with-stat",
    "patch-with-raw", "binary", "word-diff", "color-words", "cc", "c"]

/- Whether a format is asked for. -/
def asksForAny (arguments : Arguments) : Bool :=
  asksForPatch arguments || asksForNothing arguments || arguments.has "raw"
    || arguments.hasAny lonelyFormats || arguments.hasAny countFormats

/- The names of the options that ask for a format. -/
def formatNames : List String :=
  ["name-only", "name-status", "check", "raw", "patch", "u", "unified",
    "patch-with-raw", "binary", "word-diff", "color-words", "cc", "c"]
    ++ countFormats

/- Whether an option asks that nothing is printed. -/
def isSilencing (given : Given) : Bool :=
  (given.name == "no-patch" && !given.isNegated)
    || (given.name == "patch" && given.isNegated)

/- Options of which those are left that were not made idle later on. -/
def settled : List Given → List Given
  | [] => []
  | given :: rest =>
    let isFormat := formatNames.contains given.name && !given.isNegated
    let isLater := rest.any fun other =>
      formatNames.contains other.name && !other.isNegated
    if isFormat && rest.any isSilencing then settled rest
    else if isSilencing given && isLater then settled rest
    else given :: settled rest

/- Sort arguments out, some options of which are about changes. -/
def argumentsOf (more args : List String) : Attempt Arguments :=
  (Arguments.ofTexts (more ++ rules) args).map fun arguments =>
    { arguments with options := settled arguments.options }

/- Check that the formats go together. -/
def checkFormats (arguments : Arguments) : Job Unit := do
  let asked := (lonelyFormats.filter arguments.has).length
    + if arguments.hasNo "patch" then 1 else 0
  if 1 < asked then
    Job.fatal ("options '--name-only', '--name-status', '--check', and '-s' "
      ++ "cannot be used together")

/- What an exit code tells of changes. -/
def codeFor (arguments : Arguments) (isFound isFaulty : Bool) : Int :=
  let isQuiet := arguments.has "quiet"
  let isTold := (isQuiet || arguments.has "exit-code") && isFound
  (if isTold then 1 else 0)
    + (if arguments.has "check" && !isQuiet && isFaulty then 2 else 0)

/- The widths for a diagram. -/
def widthFor (arguments : Arguments) : Nat :=
  let text? := match arguments.value? "stat-width",
      arguments.value? "stat" with
    | some text, _ => some text
    | none, some text => (Text.splitAt ',' text).head?
    | none, none => none
  match text?.bind fun text => Numeral.natural? 10 text.toList with
  | some n => if n == 0 then 80 else n
  | none => 80

/- The width for the names in a diagram, if one is asked for. -/
def nameWidthFor (arguments : Arguments) : Option Nat :=
  let text? := match arguments.value? "stat-name-width",
      arguments.value? "stat" with
    | some text, _ => some text
    | none, some text => (Text.splitAt ',' text)[1]?
    | none, none => none
  text?.bind fun text => Numeral.natural? 10 text.toList

/- Whether a line marks a conflict that was left over. -/
def isMark (line : Joining.Line) : Bool :=
  match line with
  | b :: _ =>
    [60, 61, 62, 124].contains b && (line.take 7).all (· == b)
      && (line.drop 7).head?.any BlankRules.isBlank && 8 ≤ line.length
  | [] => false

/- Whether a change adds blanks or marks that should not be there. -/
def isFaulty (desk : Desk) (lens : Lens) (style : Patch.Style)
    (change : Differences.Change) : Bool :=
  let (old, new) := Patch.sidesOf change
  let oldBytes := Patch.bytesOf false old
  let newBytes := Patch.bytesOf false new
  let rules := (BlankRules.at' desk.site lens change.row.path).getD
    BlankRules.usual
  if !(Renames.isText oldBytes && Renames.isText newBytes) then false
  else
    let newLines := Joining.linesOf newBytes
    let hunks := Patch.hunksOf style (Joining.linesOf oldBytes) newLines
    let added := hunks.flatMap LineChanges.Hunk.added
    let emptyEnd (lines : List Joining.Line) : Nat :=
      (lines.reverse.takeWhile BlankRules.isEmptyLine).length
    added.any (fun line => rules.isFaulty line || isMark line)
      || (rules.atFileEnd
        && emptyEnd (Joining.linesOf oldBytes) < emptyEnd newLines)

/-
  Print changes in the formats that are asked for.  The flag
  says that rows are printed where nothing is asked for.  Of
  some paths the digest of the new side is not known.
-/
def printChanges (arguments : Arguments) (style : Patch.Style)
    (isPlumbing : Bool) (hasId : Path → Bool)
    (changes : List Differences.Change) : Job Unit := do
  let site := (← get).site
  let isNull := arguments.has "z"
  let ending := if isNull then "\x00" else "\n"
  let shown (p : Path) : String :=
    if isNull then p else Patch.shownName site p
  let say (text : String) : Job Unit := Job.print (RawByte.encode text)
  let rowStyle := if isPlumbing && (arguments.last? "abbrev").isNone then
      { style with idLength := 40 }
    else style
  checkFormats arguments
  if arguments.hasAny ["quiet", "check"] || asksForNothing arguments
      || changes.isEmpty then
    return
  if arguments.has "name-only" then
    for change in changes do
      say (shown change.row.path ++ ending)
    return
  if arguments.has "name-status" then
    for change in changes do
      let sign := if isNull then "\x00" else "\t"
      let source := match change.source? with
        | some source =>
          let text := toString (Patch.percentOf source)
          String.ofList (List.replicate (3 - text.length) '0') ++ text
            ++ sign ++ shown source.path
        | none => ""
      say (Patch.statusOf change ++ source ++ sign ++ shown change.row.path
        ++ ending)
    return
  let isRaw := arguments.hasAny ["raw", "patch-with-raw"]
    || (isPlumbing && !asksForAny arguments)
  if isRaw then
    for change in changes do
      say (if arguments.has "R" then
          Tallies.raw site rowStyle isNull hasId (fun _ => true) change
        else
          Tallies.raw site rowStyle isNull (fun _ => true) hasId change)
  let isNoted := arguments.has "compact-summary"
  let tallies := changes.map (Tallies.ofChange site style isNoted)
  if arguments.has "numstat" then
    for (change, tally) in changes.zip tallies do
      say (Tallies.numbers site isNull change tally)
  if arguments.hasAny ["stat", "patch-with-stat", "compact-summary"] then
    say (Tallies.diagram (widthFor arguments) (nameWidthFor arguments)
      tallies)
  if arguments.has "shortstat" then
    say (Tallies.total tallies)
  if arguments.has "summary" then
    for change in changes do
      say (Tallies.summary site change)
  let isCounted := arguments.hasAny countFormats
  if asksForPatch arguments || !(isRaw || isCounted) then
    if isRaw || isCounted then say "\n"
    for change in changes do
      Job.print (Patch.ofChange site style change)

end Showing

end Versions

end Sandbox

end TreeLint
