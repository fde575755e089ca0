import TreeLint.Path.Wildcard
import TreeLint.Sandbox.Tools.Inputs
import TreeLint.Text.LineChanges
import TreeLint.Text.Numeral

/-
  Programs that compare files.

  Key definitions include:
    * `Tools.cmp`
    * `Tools.Change`
    * `Tools.Comparing`
    * `Tools.diff`

  Two files are compared byte by byte or line by line.  Where
  lines differ, the changes that lead from the first file to
  the second one are printed in one of several forms.
-/

------------------------------------------------------------
-- Byte By Byte
------------------------------------------------------------

namespace TreeLint

namespace Sandbox

namespace Tools

/- Where two texts differ: the position, the line and both bytes. -/
structure Difference where
  position : Nat
  line : Nat
  first : Char
  second : Char

/- All places where two texts differ, as far as both go. -/
def differences : Nat → Nat → Chars → Chars → List Difference
  | n, line, a :: first, b :: second =>
    let rest := differences (n + 1) (if a == '\n' then line + 1 else line)
      first second
    if a == b then rest else ⟨n, line, a, b⟩ :: rest
  | _, _, _, _ => []

/- A byte in octal digits. -/
def octal (c : Char) : Chars :=
  Nat.toDigits 8 c.toNat

/- A byte in octal digits, and as it can be seen. -/
def octalShown (showsBytes : Bool) (width : Nat) (c : Char) : Chars :=
  padLeft 3 (octal c)
    ++ (if showsBytes then ' ' :: padRight width (visible c) else [])
where
  /- A character that cannot be seen, in a form that can. -/
  visible (c : Char) : Chars :=
    let low (n : Nat) : Chars :=
      if n < 32 then ['^', Char.ofNat (n + 64)]
      else if n == 127 then ['^', '?']
      else [Char.ofNat n]
    if c.toNat < 128 then low c.toNat
    else 'M' :: '-' :: low (c.toNat - 128)

/- How many bytes a text of a number and a unit tells to skip. -/
def skipCount (text : String) : Nat :=
  (Numeral.natural? 10 (text.toList.takeWhile Numeral.isDigit)).getD 0

/- Complaint of a comparing program about how it was called. -/
def comparingUsage (program why : String) : String :=
  program ++ ": " ++ why ++ "\n" ++ program ++ ": Try '" ++ program
    ++ " --help' for more information."

/- Compare two texts and report the first difference. -/
def compareBytes (options : Options) (names : List String)
    (first second : Chars) : Report :=
  let found := differences 1 1 first second
  let shared := min first.length second.length
  let isShort := first.length != second.length
  let name (n : Nat) : String := names[n]?.getD ""
  let short := if first.length < second.length then name 0 else name 1
  let lines := (first.take shared).count '\n'
  let lastIsEnd := (first.take shared).getLast? == some '\n'
  let atEnd : String :=
    "cmp: EOF on " ++ short
      ++ (if shared == 0 then " which is empty"
        else " after byte " ++ toString shared
          ++ (if options.has 'l' then ""
            else if lastIsEnd then ", line " ++ toString lines
            else ", in line " ++ toString (lines + 1)))
  let complainEnd (report : Report) : Report :=
    if isShort then
      if options.has 's' then { report with status := 1 }
      else report.complain 1 atEnd
    else report
  let showsBytes := options.has 'b'
  if options.has 's' then
    complainEnd { Report.new with status := if found.isEmpty then 0 else 1 }
  else if options.has 'l' then
    let width := (digits (max first.length second.length)).length
    let rows := found.flatMap fun d =>
      padLeft width (digits d.position) ++ [' ']
        ++ octalShown showsBytes 4 d.first ++ [' ']
        ++ octalShown showsBytes 0 d.second ++ ['\n']
    complainEnd
      { Report.new.print rows with status := if found.isEmpty then 0 else 1 }
  else
    match found with
    | [] => complainEnd .new
    | d :: _ =>
      let place := name 0 ++ " " ++ name 1 ++ " differ: "
        ++ (if showsBytes then "byte " else "char ")
        ++ toString d.position ++ ", line " ++ toString d.line
      let bytes := if showsBytes then
          " is ".toList ++ octalShown true 0 d.first ++ [' ']
            ++ octalShown true 0 d.second
        else []
      { Report.new.print (Octet.ofText place ++ bytes ++ ['\n']) with
        status := 1 }

/- Compare two files byte by byte. -/
def cmp (world : World) (start : Start) : Ran :=
  let table : OptionTable :=
    ⟨"bls", "in",
      [("print-bytes", 'b'), ("ignore-initial", 'i'), ("verbose", 'l'),
        ("bytes", 'n'), ("quiet", 's'), ("silent", 's')]⟩
  let usage (why : String) : Ran :=
    Ran.complaining world 2 (comparingUsage "cmp" why)
  match Options.read table start.args with
  | .error why => usage why
  | .ok options =>
    match options.words with
    | [] => usage "missing operand after 'cmp'"
    | _ :: _ :: _ :: _ :: extra :: _ =>
      usage ("extra operand " ++ quoted extra)
    | one :: others =>
      let two := others.head?.getD inputWord
      let skips := fieldsBy ':'
        (Octet.ofText ((options.value? 'i').getD "0"))
      let firstSkip := skipCount
        ((others[1]?).getD (Octet.toText (skips.head?.getD [])))
      let secondSkip := skipCount
        ((others[2]?).getD (Octet.toText (skips.getLast?.getD [])))
      let all := sources world start [one, two]
      match all.findSome? fun source =>
          match source.text with
          | .error unread => some (unreadText "cmp" source.name unread)
          | .ok _ => none with
      | some why =>
        if options.has 's' then .silent world 2
        else Ran.complaining world 2 why
      | none =>
        let text (n skip : Nat) : Chars :=
          let all := (((all[n]?).bind fun s => s.text.toOption).getD []).drop
            skip
          match options.value? 'n' with
          | some limit => all.take (skipCount limit)
          | none => all
        (compareBytes options [one, two] (text 0 firstSkip)
          (text 1 secondSkip)).finish world (leftAfter? [one, two])

------------------------------------------------------------
-- Changes
------------------------------------------------------------

/- Some lines of one text that are others in another text. -/
structure Change where
  oldStart : Nat
  oldCount : Nat
  newStart : Nat
  newCount : Nat
deriving DecidableEq, Repr

namespace Change

/- The line behind the old lines. -/
def oldStop (change : Change) : Nat := change.oldStart + change.oldCount

/- The line behind the new lines. -/
def newStop (change : Change) : Nat := change.newStart + change.newCount

/- The changes that hunks stand for. -/
def ofHunks {α : Type} : Int → List (LineChanges.Hunk α) → List Change
  | _, [] => []
  | shift, hunk :: rest =>
    ⟨hunk.start, hunk.removed, (Int.ofNat hunk.start + shift).toNat,
        hunk.added.length⟩
      :: ofHunks (shift + hunk.added.length - hunk.removed) rest

/- Lines as the old form tells them: a number or a range. -/
def range (start count : Nat) : String :=
  if count == 0 then toString start
  else if count == 1 then toString (start + 1)
  else toString (start + 1) ++ "," ++ toString (start + count)

/- The letter for what a change does. -/
def letter (change : Change) : String :=
  if change.oldCount == 0 then "a"
  else if change.newCount == 0 then "d"
  else "c"

/- Changes that are shown together with lines around them. -/
def groups (around : Nat) : List Change → List (List Change)
  | [] => []
  | change :: rest =>
    match groups around rest with
    | (next :: more) :: others =>
      if next.oldStart ≤ change.oldStop + 2 * around then
        (change :: next :: more) :: others
      else [change] :: (next :: more) :: others
    | others => [change] :: others

end Change

/- How files are compared line by line. -/
structure Comparing where
  foldsCase : Bool
  /- Blanks do not matter: at all, by their number, or at the end. -/
  blanks? : Option Char
  skipsEmpty : Bool
  dropsReturns : Bool
  /- The form in which changes are shown. -/
  form : Char
  around : Nat
  isBrief : Bool
  saysSame : Bool
  isDeep : Bool
  newIsEmpty : Bool
  takesBinary : Bool
  labels : List String
  excluded : List String
  /- The options as they were given. -/
  given : String

namespace Comparing

/- A line as it is compared. -/
def key (comparing : Comparing) (piece : Chars) : Chars :=
  let line := if comparing.dropsReturns
      && piece.reverse.take 2 == ['\n', '\r'] then
        piece.take (piece.length - 2) ++ ['\n']
    else piece
  let line := match comparing.blanks? with
    | some 'w' => line.filter (!Octet.isSpace ·)
    | some 'b' => squeezed (line.reverse.dropWhile Octet.isSpace).reverse
    | some _ => (line.reverse.dropWhile Octet.isSpace).reverse
    | none => line
  if comparing.foldsCase then line.map Char.toLower else line
where
  /- A text with one blank for several. -/
  squeezed : Chars → Chars
    | a :: b :: rest =>
      if Octet.isSpace a && Octet.isSpace b then squeezed (b :: rest)
      else (if Octet.isSpace a then ' ' else a) :: squeezed (b :: rest)
    | [a] => [if Octet.isSpace a then ' ' else a]
    | [] => []
  termination_by text => text.length

/- The changes from some lines to others. -/
def changes (comparing : Comparing) (old new : List Chars) : List Change :=
  let found := Change.ofHunks 0
    (LineChanges.script (old.map comparing.key) (new.map comparing.key))
  if comparing.skipsEmpty then
    found.filter fun change =>
      !(((old.drop change.oldStart).take change.oldCount
        ++ (new.drop change.newStart).take change.newCount).all
          (· == ['\n']))
  else found

/- A line with something in front; a line without an end is told so. -/
def marked (front : String) (piece : Chars) : Chars :=
  front.toList ++ piece
    ++ (if piece.getLast? == some '\n' then []
      else "\n\\ No newline at end of file\n".toList)

/- Lines with something in front. -/
def block (front : String) (pieces : List Chars) (start count : Nat) : Chars :=
  ((pieces.drop start).take count).flatMap (marked front)

/- The plain form. -/
def plain (old new : List Chars) (found : List Change) : Chars :=
  found.flatMap fun change =>
    (Change.range change.oldStart change.oldCount ++ change.letter
        ++ Change.range change.newStart change.newCount ++ "\n").toList
      ++ block "< " old change.oldStart change.oldCount
      ++ (if change.letter == "c" then "---\n".toList else [])
      ++ block "> " new change.newStart change.newCount

/- The form of commands for an editor. -/
def commands (new : List Chars) (found : List Change) : Chars :=
  found.reverse.flatMap fun change =>
    (Change.range change.oldStart change.oldCount ++ change.letter
        ++ "\n").toList
      ++ (if change.newCount == 0 then []
        else ((new.drop change.newStart).take change.newCount).flatMap
            (fun piece => withoutMark '\n' piece ++ ['\n'])
          ++ ".\n".toList)

/- The form with counts of lines to delete and to add. -/
def counts (new : List Chars) (found : List Change) : Chars :=
  found.flatMap fun change =>
    (if change.oldCount == 0 then []
      else ("d" ++ toString (change.oldStart + 1) ++ " "
        ++ toString change.oldCount ++ "\n").toList)
    ++ (if change.newCount == 0 then []
      else ("a" ++ toString change.oldStop ++ " "
          ++ toString change.newCount ++ "\n").toList
        ++ ((new.drop change.newStart).take change.newCount).flatten)

/- A range in the unified form. -/
def unifiedRange (start count : Nat) : String :=
  if count == 1 then toString (start + 1)
  else
    toString (if count == 0 then start else start + 1) ++ ","
      ++ toString count

/- The lines of changes and those around them, up to a line. -/
def unifiedBody (old new : List Chars) (stop : Nat) :
    Nat → List Change → Chars
  | at', [] => block " " old at' (stop - at')
  | at', change :: rest =>
    block " " old at' (change.oldStart - at')
      ++ block "-" old change.oldStart change.oldCount
      ++ block "+" new change.newStart change.newCount
      ++ unifiedBody old new stop change.oldStop rest

/- The extent of a group of changes in both texts. -/
def extent (around : Nat) (old : List Chars) (group : List Change) :
    Change :=
  match group.head?, group.getLast? with
  | some first, some last =>
    let start := first.oldStart - around
    let before := first.oldStart - start
    let stop := min old.length (last.oldStop + around)
    let after := stop - last.oldStop
    ⟨start, stop - start, first.newStart - before,
      last.newStop + after - (first.newStart - before)⟩
  | _, _ => ⟨0, 0, 0, 0⟩

/- The unified form. -/
def unified (around : Nat) (old new : List Chars) (found : List Change) :
    Chars :=
  (Change.groups around found).flatMap fun group =>
    let all := extent around old group
    ("@@ -" ++ unifiedRange all.oldStart all.oldCount ++ " +"
        ++ unifiedRange all.newStart all.newCount ++ " @@\n").toList
      ++ unifiedBody old new all.oldStop all.oldStart group

/- A range in the form with both texts. -/
def contextRange (start count : Nat) : String :=
  if count ≤ 1 then toString (start + count)
  else toString (start + 1) ++ "," ++ toString (start + count)

/- One of the two texts of a group, with signs for what has changed. -/
def contextSide (pieces : List Chars) (sign : String) (stop : Nat) :
    Nat → List (Nat × Nat × Bool) → Chars
  | at', [] => block "  " pieces at' (stop - at')
  | at', (start, count, isChange) :: rest =>
    block "  " pieces at' (start - at')
      ++ block (if isChange then "! " else sign) pieces start count
      ++ contextSide pieces sign stop (start + count) rest

/- The form with both texts. -/
def contextual (around : Nat) (old new : List Chars)
    (found : List Change) : Chars :=
  (Change.groups around found).flatMap fun group =>
    let all := extent around old group
    let side (range : Change → Nat × Nat) : List (Nat × Nat × Bool) :=
      group.map fun change =>
        ((range change).1, (range change).2, change.letter == "c")
    let oldSide := side fun change => (change.oldStart, change.oldCount)
    let newSide := side fun change => (change.newStart, change.newCount)
    "***************\n*** ".toList
      ++ (contextRange all.oldStart all.oldCount ++ " ****\n").toList
      ++ (if group.any (·.oldCount > 0) then
          contextSide old "- " all.oldStop all.oldStart oldSide else [])
      ++ ("--- " ++ contextRange all.newStart all.newCount
        ++ " ----\n").toList
      ++ (if group.any (·.newCount > 0) then
          contextSide new "+ " all.newStop all.newStart newSide else [])

/- The time that is shown for a file. -/
def shownTime : String := "1970-01-01 00:00:00.000000000 +0000"

/- The two lines in front of changes. -/
def heading (comparing : Comparing) (signs : String × String)
    (first second : String) : Chars :=
  let name (n : Nat) (name : String) : String :=
    match comparing.labels[n]? with
    | some label => label
    | none => name ++ "\t" ++ shownTime
  Octet.ofText
    (signs.1 ++ " " ++ name 0 first ++ "\n" ++ signs.2 ++ " "
      ++ name 1 second ++ "\n")

/- What is printed for two texts that differ. -/
def shown (comparing : Comparing) (first second : String)
    (old new : List Chars) (found : List Change) : Chars :=
  match comparing.form with
  | 'u' =>
    comparing.heading ("---", "+++") first second
      ++ unified comparing.around old new found
  | 'c' =>
    comparing.heading ("***", "---") first second
      ++ contextual comparing.around old new found
  | 'e' => commands new found
  | 'n' => counts new found
  | _ => plain old new found

end Comparing

------------------------------------------------------------
-- Files
------------------------------------------------------------

namespace Comparing

/- Compare two texts and add to a report. -/
def texts (comparing : Comparing) (report : Report) (inner : Bool)
    (first second : String) (a b : Chars) : Report :=
  let label (n : Nat) (name : String) : String :=
    comparing.labels[n]?.getD name
  let isBinary := !comparing.takesBinary
    && (a.contains '\x00' || b.contains '\x00')
  let fail (report : Report) : Report :=
    { report with status := max 1 report.status }
  let say (text : String) : Chars := Octet.ofText text
  let same (report : Report) : Report :=
    if comparing.saysSame then
      report.print (say ("Files " ++ label 0 first ++ " and "
        ++ label 1 second ++ " are identical\n"))
    else report
  if a == b then same report
  else if isBinary then
    fail (report.print (say
      ((if comparing.isBrief then "Files " else "Binary files ")
        ++ label 0 first ++ " and " ++ label 1 second ++ " differ\n")))
  else
    let old := pieces a
    let new := pieces b
    let found := comparing.changes old new
    if found.isEmpty then same report
    else if comparing.isBrief then
      fail (report.print (say ("Files " ++ label 0 first ++ " and "
        ++ label 1 second ++ " differ\n")))
    else
      let command := if inner then
          say ("diff" ++ comparing.given ++ " " ++ label 0 first ++ " "
            ++ label 1 second ++ "\n")
        else []
      let report := fail (report.print
        (command ++ comparing.shown first second old new found))
      if comparing.form == 'e' then
        [(first, a), (second, b)].foldl
          (fun (report : Report) (name, text) =>
            if text.isEmpty || text.getLast? == some '\n' then report
            else report.complain 2
              ("diff: " ++ name ++ ": No newline at end of file\n"))
          report
      else report

/- A path below a directory as it was named. -/
def below (directory name : String) : String :=
  if directory.endsWith "/" then directory ++ name
  else directory ++ "/" ++ name

/- Compare what two paths lead to; `inner` tells of a name in both. -/
def paths (comparing : Comparing) (world : World) (start : Start) :
    Nat → Bool → String → String → Report → Report
  | 0, _, _, _, report => report
  | depth + 1, inner, first, second, report =>
    let source (word : String) : Except Unread Chars :=
      if word == inputWord then .ok (Octet.decode start.stdin)
      else readText world start.cwd word
    let isMissing (text : Except Unread Chars) : Bool :=
      match text with
      | .error (.closed _) => true
      | _ => false
    match source first, source second with
    | .ok a, .ok b => comparing.texts report inner first second a b
    | .error .directory, .error .directory =>
      let namesOf (word : String) : List String :=
        ((world.files.directory? start.cwd word).map
          world.files.names).getD []
      let old := namesOf first
      let new := namesOf second
      let names := ((old ++ new).mergeSort RawByte.precedes).eraseDups
      let names := names.filter fun name =>
        !comparing.excluded.any fun pattern =>
          (Wildcard.mk false false).fits pattern name
      let only (directory name : String) (report : Report) : Report :=
        { report.print (Octet.ofText
            ("Only in " ++ directory ++ ": " ++ name ++ "\n")) with
          status := max 1 report.status }
      let isDirectory (word : String) : Bool :=
        (world.files.directory? start.cwd word).isSome
      names.foldl
        (fun (report : Report) name =>
          let a := below first name
          let b := below second name
          match old.contains name, new.contains name with
          | true, false =>
            if comparing.newIsEmpty then
              if isDirectory a then report
              else comparing.texts report true a b
                ((source a).toOption.getD []) []
            else only first name report
          | false, true =>
            if comparing.newIsEmpty then
              if isDirectory b then report
              else comparing.texts report true a b []
                ((source b).toOption.getD [])
            else only second name report
          | _, _ =>
            if isDirectory a && isDirectory b && !comparing.isDeep then
              report.print (Octet.ofText
                ("Common subdirectories: " ++ a ++ " and " ++ b ++ "\n"))
            else paths comparing world start depth true a b report)
        report
    | .error .directory, .ok b =>
      if inner then
        { report.print (Octet.ofText ("File " ++ first
            ++ " is a directory while file " ++ second
            ++ " is a regular file\n")) with status := max 1 report.status }
      else
        let first := below first (lastName second)
        let text := source first
        if isMissing text then
          report.complain 2 ("diff: " ++ first ++ ": "
            ++ (match text with
              | .error unread => unread.why
              | .ok _ => ""))
        else comparing.texts report false first second
          (text.toOption.getD []) b
    | .ok a, .error .directory =>
      if inner then
        { report.print (Octet.ofText ("File " ++ first
            ++ " is a regular file while file " ++ second
            ++ " is a directory\n")) with status := max 1 report.status }
      else
        let second := below second (lastName first)
        let text := source second
        if isMissing text then
          report.complain 2 ("diff: " ++ second ++ ": "
            ++ (match text with
              | .error unread => unread.why
              | .ok _ => ""))
        else comparing.texts report false first second a
          (text.toOption.getD [])
    | a, b =>
      match comparing.newIsEmpty, isMissing a, isMissing b with
      | true, true, false =>
        comparing.texts report inner first second [] (b.toOption.getD [])
      | true, false, true =>
        comparing.texts report inner first second (a.toOption.getD []) []
      | _, _, _ =>
        [(first, a), (second, b)].foldl
          (fun (report : Report) (name, text) =>
            match text with
            | .error (.closed why) =>
              report.complain 2 ("diff: " ++ name ++ ": " ++ why)
            | _ => report)
          report
where
  /- The last name of a path. -/
  lastName (p : String) : String :=
    ((Path.segments p).filter (!·.isEmpty)).getLast?.getD p

end Comparing

/- The options of the program that compares line by line. -/
def diffOptions : OptionTable :=
  ⟨"abBcdeEiNnpqrsTtuwyZ\x01\x02\x05\x06\x07", "CFILUWxS\x03\x04",
    [ ("text", 'a'), ("ignore-space-change", 'b'),
      ("ignore-blank-lines", 'B'), ("context", '\x06'), ("minimal", 'd'),
      ("ed", 'e'), ("ignore-tab-expansion", 'E'), ("ignore-case", 'i'),
      ("new-file", 'N'), ("rcs", 'n'), ("show-c-function", 'p'),
      ("brief", 'q'), ("recursive", 'r'), ("report-identical-files", 's'),
      ("initial-tab", 'T'), ("expand-tabs", 't'), ("unified", '\x07'),
      ("ignore-all-space", 'w'), ("side-by-side", 'y'),
      ("ignore-trailing-space", 'Z'), ("strip-trailing-cr", '\x01'),
      ("normal", '\x02'), ("label", 'L'), ("width", 'W'),
      ("exclude", 'x'), ("ignore-matching-lines", 'I'),
      ("color", '\x05') ]⟩

/- The comparing that options ask for. -/
def Comparing.ofOptions (options : Options) (args : List String) :
    Comparing :=
  let number (letter : Char) : Option Nat :=
    (options.value? letter).bind fun text =>
      Numeral.natural? 10 text.toList
  let form := match options.last "ucUCen\x02\x06\x07" with
    | some 'U' => 'u'
    | some '\x07' => 'u'
    | some 'C' => 'c'
    | some '\x06' => 'c'
    | some 'u' => 'u'
    | some 'c' => 'c'
    | some 'e' => 'e'
    | some 'n' => 'n'
    | _ => ' '
  { foldsCase := options.has 'i'
    blanks? := if options.has 'w' then some 'w'
      else if options.has 'b' then some 'b'
      else if options.has 'Z' then some 'Z'
      else none
    skipsEmpty := options.has 'B'
    dropsReturns := options.has '\x01'
    form
    around := match form, number 'U', number '\x07', number 'C',
        number '\x06' with
      | 'u', some n, _, _, _ => n
      | 'u', none, some n, _, _ => n
      | 'c', _, _, some n, _ => n
      | 'c', _, _, none, some n => n
      | _, _, _, _, _ => 3
    isBrief := options.has 'q'
    saysSame := options.has 's'
    isDeep := options.has 'r'
    newIsEmpty := options.has 'N'
    takesBinary := options.has 'a'
    labels := options.values 'L'
    excluded := options.values 'x'
    given := String.join
      ((args.filter fun a => !options.words.contains a).map (" " ++ ·)) }

/- Compare two files, or the files in two directories. -/
def diff (world : World) (start : Start) : Ran :=
  let usage (why : String) : Ran :=
    Ran.complaining world 2 (comparingUsage "diff" why)
  match Options.read diffOptions start.args with
  | .error why => usage why
  | .ok options =>
    match options.words with
    | [] => usage "missing operand after 'diff'"
    | [word] => usage ("missing operand after " ++ quoted word)
    | _ :: _ :: extra :: _ => usage ("extra operand " ++ quoted extra)
    | [first, second] =>
      let comparing := Comparing.ofOptions options start.args
      (comparing.paths world start 64 false first second .new).finish world
        (leftAfter? [first, second])

end Tools

end Sandbox

end TreeLint
