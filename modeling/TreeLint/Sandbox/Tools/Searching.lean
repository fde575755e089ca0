import TreeLint.FileTree.Edit
import TreeLint.Path.Wildcard
import TreeLint.Sandbox.Tools.Inputs
import TreeLint.Text.Regex.Reading

/-
  The program that searches texts for patterns.

  Key definitions include:
    * `Tools.Search`
    * `Tools.Search.matches`
    * `Tools.Search.report`
    * `Tools.grep`

  A line is selected if a pattern matches in it.  What is
  printed may be the line, the matches themselves, lines around
  it, the name of the file or only how many there are.
-/

------------------------------------------------------------
-- Patterns
------------------------------------------------------------

namespace TreeLint

namespace Sandbox

namespace Tools

/- A search for patterns. -/
structure Search where
  patterns : List Regex
  foldsCase : Bool
  wantsWords : Bool
  wantsLines : Bool
  isInverted : Bool

namespace Search

/- The expression that matches some characters and nothing else. -/
def literally (text : Chars) : Regex :=
  text.foldr (fun c re => .sequence (.one (.single c)) re) .empty

/- A line as something that is searched. -/
def subject (search : Search) (line : Chars) : Regex.Subject :=
  ⟨line.toArray, search.foldsCase, false⟩

/- Whether a match is as the search wants it. -/
def isWanted (search : Search) (s : Regex.Subject)
    (found : Regex.Found) : Bool :=
  if search.wantsLines then
    found.start == 0 && found.stop == s.chars.size
  else if search.wantsWords then
    !Regex.isWordBefore s found.start && !Regex.isWordAt s found.stop
  else
    true

/- The first match of a pattern in a line from a position on. -/
def find? (search : Search) (s : Regex.Subject) (from' : Nat) :
    Option Regex.Found :=
  let found := search.patterns.filterMap fun re =>
    re.findWhere? s (search.isWanted s) (s.chars.size + 1 - from') from'
  found.foldl
    (fun (best : Option Regex.Found) found =>
      match best with
      | none => some found
      | some other =>
        if found.start < other.start
            || (found.start == other.start && other.stop < found.stop)
        then some found else best)
    none

/- Whether a line is selected. -/
def selects (search : Search) (line : Chars) : Bool :=
  (search.find? (search.subject line) 0).isSome != search.isInverted

/- All matches in a line that are not empty, one behind the other. -/
def allFrom (search : Search) (s : Regex.Subject) :
    Nat → Nat → List Regex.Found
  | 0, _ => []
  | fuel + 1, i =>
    match search.find? s i with
    | none => []
    | some found =>
      if found.start < found.stop then
        found :: allFrom search s fuel found.stop
      else
        allFrom search s fuel (found.stop + 1)

/- All matches in a line. -/
def «matches» (search : Search) (line : Chars) : List Regex.Found :=
  search.allFrom (search.subject line) (line.length + 1) 0

end Search

------------------------------------------------------------
-- What Is Printed
------------------------------------------------------------

/- What is printed about the lines that are selected. -/
structure SearchOutput where
  isQuiet : Bool
  counts : Bool
  /- Only the names of files: of those with or without a match. -/
  names? : Option Bool
  onlyMatches : Bool
  hasNumbers : Bool
  hasOffsets : Bool
  hasNames : Bool
  isStyled : Bool
  /- What stands behind a name that stands alone. -/
  nameEnd : Char
  mark : Char
  most? : Option Nat
  before : Nat
  after : Nat
  isGrouped : Bool
  /- Files that are not texts are searched like texts. -/
  takesBinary : Bool
  label : String

/- A line of a text that is searched. -/
structure SearchLine where
  number : Nat
  offset : Nat
  text : Chars
  isSelected : Bool

namespace SearchOutput

/- Characters in the style that a code stands for. -/
def styled (out : SearchOutput) (code : String) (text : Chars) : Chars :=
  if out.isStyled && !text.isEmpty then
    ("\x1b[" ++ code ++ "m\x1b[K").toList ++ text ++ "\x1b[m\x1b[K".toList
  else
    text

/- What is printed in front of a line. -/
def front (out : SearchOutput) (name : Chars) (number offset : Nat)
    (sign : Char) : Chars :=
  let sign := out.styled "36" [sign]
  (if out.hasNames then
      out.styled "35" name
        ++ (if out.nameEnd == '\x00' then [out.nameEnd] else sign)
    else [])
    ++ (if out.hasNumbers then out.styled "32" (digits number) ++ sign
      else [])
    ++ (if out.hasOffsets then out.styled "32" (digits offset) ++ sign
      else [])

/- A text with the matches in it made visible. -/
def highlighted (out : SearchOutput) (line : Chars) :
    Nat → List Regex.Found → Chars
  | i, [] => line.drop i
  | i, found :: rest =>
    (line.drop i).take (found.start - i)
      ++ out.styled "01;31"
        ((line.drop found.start).take (found.stop - found.start))
      ++ highlighted out line found.stop rest

/- What is printed for a line. -/
def line (out : SearchOutput) (search : Search) (name : Chars)
    (line : SearchLine) : Chars :=
  if line.isSelected && out.onlyMatches then
    if search.isInverted then []
    else (search.matches line.text).flatMap fun found =>
      out.front name line.number (line.offset + found.start) ':'
        ++ out.styled "01;31"
          ((line.text.drop found.start).take (found.stop - found.start))
        ++ [out.mark]
  else
    out.front name line.number line.offset (if line.isSelected then ':' else '-')
      ++ (if out.isStyled && line.isSelected && !search.isInverted then
          out.highlighted line.text 0 (search.matches line.text)
        else line.text)
      ++ [out.mark]

/- Whether a line is near enough to a selected one. -/
def isNear (out : SearchOutput) (selected : List Nat) (n : Nat) : Bool :=
  selected.any fun m =>
    (n ≤ m && m ≤ n + out.before) || (m ≤ n && n ≤ m + out.after)

/-
  What is printed for lines.  Groups that do not lie side by
  side are set apart; `last?` is the last line printed before.
-/
def lines (out : SearchOutput) (search : Search) (name : Chars) :
    Option Nat → List SearchLine → Chars
  | _, [] => []
  | last?, line :: rest =>
    let isApart := match last? with
      | some last => last + 1 < line.number
      | none => false
    (if isApart && out.isGrouped then out.styled "36" ['-', '-'] ++ ['\n']
      else [])
      ++ out.line search name line
      ++ lines out search name (some line.number) rest

end SearchOutput

------------------------------------------------------------
-- One Text
------------------------------------------------------------

/- The lines of a text as they are searched. -/
def searchLines (search : Search) (mark : Char) (text : Chars) :
    List SearchLine :=
  let (_, lines) := (piecesBy mark text).foldl
    (fun ((offset : Nat), (lines : List SearchLine)) piece =>
      let line := withoutMark mark piece
      (offset + piece.length,
        ⟨lines.length + 1, offset, line, search.selects line⟩ :: lines))
    (0, [])
  lines.reverse

/- The lines up to the last one that may be selected. -/
def upToMost (most? : Option Nat) (lines : List SearchLine) :
    List SearchLine × List SearchLine :=
  match most? with
  | none => (lines, [])
  | some most =>
    let selected := (lines.filter (·.isSelected)).take most
    match selected.getLast? with
    | some last =>
      if selected.length < most then (lines, [])
      else lines.span (fun line => line.number ≤ last.number)
    | none => if most == 0 then ([], []) else (lines, [])

/- What a search of one text leads to. -/
structure Searched where
  report : Report
  /- Whether a line was selected in any text. -/
  isFound : Bool
  /- Whether anything was printed in groups. -/
  hasGroups : Bool

namespace Search

/- Search one text and report what was found. -/
def report (search : Search) (out : SearchOutput) (state : Searched)
    (source : Source) (text : Chars) : Searched :=
  let name := Octet.ofText
    (if source.isInput then out.label else source.name)
  let all := searchLines search out.mark text
  let (lines, behind) := upToMost out.most? all
  let selected := (lines.filter (·.isSelected)).map (·.number)
  let isFound := !selected.isEmpty
  let state := { state with isFound := state.isFound || isFound }
  let isBinary := !out.takesBinary && out.mark == '\n'
    && text.contains '\x00'
  let printing (text : Chars) : Searched :=
    { state with report := state.report.print text }
  match out.isQuiet, out.names?, out.counts with
  | true, _, _ => state
  | _, some wantsFound, _ =>
    if wantsFound == isFound then
      printing (out.styled "35" name ++ [out.nameEnd])
    else
      state
  | _, _, true =>
    printing
      ((if out.hasNames then
          out.styled "35" name
            ++ (if out.nameEnd == '\x00' then ['\x00']
              else out.styled "36" [':'])
        else [])
        ++ digits selected.length ++ ['\n'])
  | _, _, _ =>
    if isBinary then
      if isFound && !(out.onlyMatches && search.isInverted) then
        { state with
          report := state.report.remark
            ("grep: " ++ Octet.toText name ++ ": binary file matches") }
      else
        state
    else
      let behind := behind.takeWhile (fun line => !line.isSelected)
      let shown := (lines ++ behind).filter fun line =>
        line.isSelected
          || (!out.onlyMatches && out.isNear selected line.number)
      let apart :=
        if state.hasGroups && out.isGrouped && !shown.isEmpty then
          out.styled "36" ['-', '-'] ++ ['\n']
        else []
      { printing (apart ++ out.lines search name none shown) with
        hasGroups := state.hasGroups || !shown.isEmpty }

end Search

------------------------------------------------------------
-- Options
------------------------------------------------------------

/- The options of a search. -/
def searchOptions : OptionTable :=
  ⟨"EFGPabchHiIlLnoqrRsTUuvVwxyzZ0123456789\x01\x02\x03", "ABCdDefm\x04\x05\x06\x07\x08",
    [ ("extended-regexp", 'E'), ("fixed-strings", 'F'),
      ("basic-regexp", 'G'), ("perl-regexp", 'P'), ("text", 'a'),
      ("byte-offset", 'b'), ("count", 'c'), ("no-filename", 'h'),
      ("with-filename", 'H'), ("ignore-case", 'i'),
      ("no-ignore-case", '\x02'), ("files-with-matches", 'l'),
      ("files-without-match", 'L'), ("line-number", 'n'),
      ("only-matching", 'o'), ("quiet", 'q'), ("silent", 'q'),
      ("recursive", 'r'), ("dereference-recursive", 'R'),
      ("no-messages", 's'), ("initial-tab", 'T'), ("binary", 'U'),
      ("invert-match", 'v'), ("word-regexp", 'w'), ("line-regexp", 'x'),
      ("null-data", 'z'), ("null", 'Z'), ("color", '\x01'),
      ("colour", '\x01'), ("line-buffered", '\x03'),
      ("after-context", 'A'), ("before-context", 'B'), ("context", 'C'),
      ("directories", 'd'), ("devices", 'D'), ("regexp", 'e'),
      ("file", 'f'), ("max-count", 'm'), ("label", '\x04'),
      ("binary-files", '\x05'), ("include", '\x06'), ("exclude", '\x07'),
      ("exclude-dir", '\x08') ]⟩

/- The number that single digits among the options make. -/
def digitsOption? (options : Options) : Option Nat :=
  Numeral.natural? 10
    ((options.letters.map Prod.fst).filter Numeral.isDigit)

/- Whether a name is like one of some patterns. -/
def isLikeAny (patterns : List String) (name : String) : Bool :=
  patterns.any fun pattern => (Wildcard.mk false false).fits pattern name

/- The paths of all files at a path and below it. -/
def filesBelow (world : World) (options : Options) :
    Nat → Path → Location → List Path
  | 0, _, _ => []
  | depth + 1, p, loc =>
    (world.files.names loc).flatMap fun name =>
      let below := if p.isEmpty then name
        else if p.endsWith "/" then p ++ name
        else p ++ "/" ++ name
      match world.files.node? (loc ++ [name]) with
      | some .directory =>
        if isLikeAny (options.values '\x08') name then []
        else filesBelow world options depth below (loc ++ [name])
      | some (.file _ _) => [below]
      | some (.link _) =>
        if !options.has 'R' then []
        else
          match world.files.resolved? loc name with
          | some (_, .file _ _) => [below]
          | some (target, .directory) =>
            filesBelow world options depth below target
          | _ => []
      | _ => []

/- Whether the names of files allow a file to be searched. -/
def isAdmitted (options : Options) (p : Path) : Bool :=
  let name := match FileTree.splitLast p with
    | some (_, name) => name
    | none => p
  let included := options.values '\x06'
  let excluded := options.values '\x07'
  !isLikeAny excluded name && (included.isEmpty || isLikeAny included name)

/- How deep directories are followed. -/
def searchDepth : Nat := 64

/- The texts that are searched. -/
def searchSources (world : World) (start : Start) (options : Options)
    (words : List String) : List Source :=
  let isDeep := options.has 'r' || options.has 'R'
    || options.value? 'd' == some "recurse"
  let skips := options.value? 'd' == some "skip"
  let words := if words.isEmpty && isDeep then [""] else words
  let source (word : String) : List Source :=
    let place := if word.isEmpty then some start.cwd
      else world.files.directory? start.cwd word
    match word == inputWord, isDeep, place with
    | false, true, some loc =>
      ((filesBelow world options searchDepth word loc).filter
        (isAdmitted options)).map fun p =>
          ⟨p, readText world start.cwd p⟩
    | false, false, some _ =>
      if skips then [] else sources world start [word]
    | true, _, _ => sources world start [word]
    | _, _, _ =>
      if isAdmitted options word then sources world start [word] else []
  if words.isEmpty then sources world start []
  else words.flatMap source

/- The patterns in a text, one on each line. -/
def patternLines (text : Chars) : List Chars :=
  fieldsBy '\n' text

/- The lines of the patterns, and the words that are left. -/
def searchPatterns (world : World) (start : Start) (options : Options) :
    Except String (List Chars × List String) :=
  let given := options.letters.filter (fun o => o.1 == 'e' || o.1 == 'f')
  match given, options.words with
  | [], [] => .error ""
  | [], pattern :: words =>
    .ok (patternLines (Octet.ofText pattern), words)
  | given, words => do
    let lines ← given.mapM fun (letter, value) =>
      if letter == 'e' then .ok (patternLines (Octet.ofText value))
      else
        match sources world start [value] with
        | ⟨_, .ok text⟩ :: _ => .ok (linesOf text)
        | ⟨_, .error unread⟩ :: _ =>
          .error ("grep: " ++ value ++ ": " ++ unread.why)
        | [] => .ok []
    .ok (lines.flatten, words)

/- A number in the value of an option. -/
def contextOption? (options : Options) (letter : Char) :
    Except String (Option Nat) :=
  match options.value? letter with
  | none => .ok none
  | some value =>
    match Numeral.natural? 10 value.toList with
    | some n => .ok (some n)
    | none =>
      .error ("grep: " ++ value ++ ": "
        ++ (if letter == 'm' then "invalid max count"
          else "invalid context length argument"))

/- The expressions for patterns, and what is to be said about them. -/
def readPatterns (kind : Char) (lines : List Chars) :
    Except String (List Regex × List String) := do
  if kind == 'F' then
    .ok (lines.map Search.literally, [])
  else
    let res ← lines.mapM fun line =>
      match Regex.read ⟨kind == 'E' || kind == 'P', false⟩ line with
      | .ok re => .ok re
      | .error fault => .error ("grep: " ++ fault.message)
    let useless :=
      if kind != 'E' then []
      else (lines.filterMap Regex.uselessStart?).map fun c =>
        "grep: warning: " ++ String.singleton c ++ " at start of expression"
    .ok (res, useless)

/- The lines on how the program is used. -/
def searchUsage : String :=
  "Usage: grep [OPTION]... PATTERNS [FILE]...\n"
    ++ "Try 'grep --help' for more information."

/- Search texts, once the options are known. -/
def searchWith (world : World) (start : Start) (kind : Char)
    (options : Options) : Except String Ran := do
  let (lines, words) ← (searchPatterns world start options).mapError
    fun why => if why.isEmpty then searchUsage else why
  let (patterns, warnings) ← readPatterns kind lines
  let around ← contextOption? options 'C'
  let around := (around.orElse fun _ => digitsOption? options)
  let before ← contextOption? options 'B'
  let after ← contextOption? options 'A'
  let most? ← contextOption? options 'm'
  let search : Search :=
    { patterns
      foldsCase := (options.last "iy\x02").any (· != '\x02')
      wantsWords := options.has 'w'
      wantsLines := options.has 'x'
      isInverted := options.has 'v' }
  let isDeep := options.has 'r' || options.has 'R'
  let isDirectory (word : String) : Bool :=
    word != inputWord && (world.files.directory? start.cwd word).isSome
  let out : SearchOutput :=
    { isQuiet := options.has 'q'
      counts := options.has 'c'
      names? := (options.last "lL").map (· == 'l')
      onlyMatches := options.has 'o'
      hasNumbers := options.has 'n'
      hasOffsets := options.has 'b'
      hasNames :=
        match options.last "hH" with
        | some letter => letter == 'H'
        | none =>
          words.length > 1
            || (isDeep && (words.isEmpty || words.any isDirectory))
      isStyled := options.value? '\x01' == some "always"
      nameEnd := if options.has 'Z' then '\x00' else '\n'
      mark := if options.has 'z' then '\x00' else '\n'
      most?
      before := (before.orElse fun _ => around).getD 0
      after := (after.orElse fun _ => around).getD 0
      isGrouped :=
        ((before.orElse fun _ => around).getD 0
          + (after.orElse fun _ => around).getD 0) > 0
      takesBinary :=
        options.has 'a' || options.value? '\x05' == some "text"
      label := (options.value? '\x04').getD "(standard input)" }
  let begun := warnings.foldl Report.remark Report.new
  let all := searchSources world start options words
  let done := all.foldl
    (fun (state : Searched) source =>
      if out.isQuiet && state.isFound then state
      else
        match source.text with
        | .ok text => search.report out state source text
        | .error unread =>
          { state with
            report :=
              if options.has 's' then { state.report with status := 2 }
              else state.report.complain 2
                ("grep: " ++ source.name ++ ": " ++ unread.why) })
    (⟨begun, false, false⟩ : Searched)
  let status : Int :=
    if out.isQuiet && done.isFound then 0
    else if done.report.status != 0 then done.report.status
    else if done.isFound then 0
    else 1
  .ok ({ done.report with status }.finish world (leftAfter? words))

/- Search texts for patterns of a kind. -/
def grepAs (kind : Char) (world : World) (start : Start) : Ran :=
  match Options.read searchOptions start.args with
  | .error why =>
    Ran.complaining world 2 ("grep: " ++ why ++ "\n" ++ searchUsage)
  | .ok options =>
    match searchWith world start ((options.last "EFGP").getD kind) options with
    | .ok ran => ran
    | .error why => Ran.complaining world 2 why

/- Search texts for patterns. -/
def grep : World → Start → Ran := grepAs 'G'

end Tools

end Sandbox

end TreeLint
