import TreeLint.Sandbox.Tools.Inputs
import TreeLint.Text.Numeral
import TreeLint.Text.Regex.Reading

/-
  Programs that give texts another shape.

  Key definitions include:
    * `Tools.cut`
    * `Tools.paste`
    * `Tools.nl`
    * `Tools.fold`
    * `Tools.expand`

  Each program goes through the lines of its texts and prints
  them in another form: parts of them, side by side, with
  numbers, or broken where they are too wide.
-/

------------------------------------------------------------
-- Lists Of Positions
------------------------------------------------------------

namespace TreeLint

namespace Sandbox

namespace Tools

/- The positions from one to another; without an end all others. -/
structure Span where
  first : Nat
  last? : Option Nat
deriving DecidableEq, Repr

namespace Span

/- Whether a position is in the span. -/
def holds (span : Span) (n : Nat) : Bool :=
  span.first ≤ n && span.last?.all (n ≤ ·)

/- Read a span; what is wrong with it is told in words. -/
def read (isField : Bool) (text : Chars) : Except String Span :=
  let fromOne : Except String Span :=
    .error (if isField then "fields are numbered from 1"
      else "byte/character positions are numbered from 1")
  let number (digits : Chars) : Except String Nat :=
    match Numeral.natural? 10 digits with
    | some n => .ok n
    | none =>
      .error ((if isField then "invalid field value "
          else "invalid byte/character position ")
        ++ quoted (Octet.toText text))
  match text.span (· != '-') with
  | ([], []) => fromOne
  | (low, []) => do
    let n ← number low
    if n == 0 then fromOne else .ok ⟨n, some n⟩
  | ([], ['-']) => .error "invalid range with no endpoint: -"
  | (low, _ :: high) =>
    if high.contains '-' then
      .error (if isField then "invalid field range"
        else "invalid byte or character range")
    else do
      let shown (digits : Chars) : Except String Nat :=
        match Numeral.natural? 10 digits with
        | some n => .ok n
        | none =>
          .error ((if isField then "invalid field value "
              else "invalid byte/character position ")
            ++ quoted (Octet.toText digits))
      let first ← if low.isEmpty then .ok 1 else shown low
      if first == 0 then fromOne
      else if high.isEmpty then .ok ⟨first, none⟩
      else
        let last ← shown high
        if last < first then .error "invalid decreasing range"
        else .ok ⟨first, some last⟩

/- Whether two spans overlap, the first one starting no later. -/
def overlaps (a b : Span) : Bool :=
  a.last?.all (b.first ≤ ·)

/- Put spans in order together where they overlap. -/
def joined : List Span → List Span
  | a :: b :: rest =>
    if a.overlaps b then
      let last? := match a.last?, b.last? with
        | some m, some n => some (max m n)
        | _, _ => none
      joined (⟨a.first, last?⟩ :: rest)
    else
      a :: joined (b :: rest)
  | spans => spans
termination_by spans => spans.length

/- The positions that spans in order leave out. -/
def others : Nat → List Span → List Span
  | n, [] => [⟨n, none⟩]
  | n, span :: rest =>
    let gap := if n < span.first then [⟨n, some (span.first - 1)⟩] else []
    match span.last? with
    | some last => gap ++ others (last + 1) rest
    | none => gap

/- Read a list of spans. -/
def readAll (isField : Bool) (text : String) :
    Except String (List Span) := do
  let parts := fieldsBy ','
    ((Octet.ofText text).map fun c => if Octet.isBlank c then ',' else c)
  let spans ← parts.mapM (read isField)
  .ok (joined (spans.mergeSort fun a b => a.first ≤ b.first))

end Span

------------------------------------------------------------
-- Cutting
------------------------------------------------------------

/- How parts are cut out of lines. -/
structure Cutting where
  spans : List Span
  /- The mark between fields; there is none for characters. -/
  mark? : Option Char
  between? : Option Chars
  skipsPlain : Bool

namespace Cutting

/- The parts of a line. -/
def line (cutting : Cutting) (line : Chars) : Option Chars :=
  match cutting.mark? with
  | some mark =>
    if !line.contains mark then
      if cutting.skipsPlain then none else some line
    else
      let fields := (fieldsBy mark line).zipIdx 1
      let kept := fields.filter fun (_, n) =>
        cutting.spans.any (·.holds n)
      some (joinWith (cutting.between?.getD [mark]) (kept.map Prod.fst))
  | none =>
    let chars := line.zipIdx 1
    let parts := cutting.spans.map fun span =>
      (chars.filter fun (_, n) => span.holds n).map Prod.fst
    some (joinWith (cutting.between?.getD [])
      (parts.filter (!·.isEmpty)))

end Cutting

/- Print parts of lines. -/
def cut (world : World) (start : Start) : Ran :=
  withOptions "cut" 1
    ⟨"nsz\x01", "bcdf\x02",
      [("bytes", 'b'), ("characters", 'c'), ("delimiter", 'd'),
        ("fields", 'f'), ("complement", '\x01'), ("only-delimited", 's'),
        ("output-delimiter", '\x02'), ("zero-terminated", 'z')]⟩
    world start fun options => do
      let lists := options.letters.filter fun (letter, _) =>
        letter == 'b' || letter == 'c' || letter == 'f'
      let (kind, list) ← match lists with
        | [] =>
          .error "you must specify a list of bytes, characters, or fields"
        | [one] => .ok one
        | _ => .error "only one list may be specified"
      let isField := kind == 'f'
      let mark ← match options.value? 'd' with
        | none => .ok '\t'
        | some text =>
          match Octet.ofText text with
          | [] => .ok '\x00'
          | [c] => .ok c
          | _ => .error "the delimiter must be a single character"
      if !isField && (options.value? 'd').isSome then
        .error ("an input delimiter may be specified only when operating "
          ++ "on fields")
      else if !isField && options.has 's' then
        .error ("suppressing non-delimited lines makes sense\n"
          ++ "\tonly when operating on fields")
      else
        let spans ← Span.readAll isField list
        let cutting : Cutting :=
          { spans := if options.has '\x01' then Span.others 1 spans else spans
            mark? := if isField then some mark else none
            between? := (options.value? '\x02').map Octet.ofText
            skipsPlain := options.has 's' }
        let lineMark := if options.has 'z' then '\x00' else '\n'
        let (_, report) := overSources "cut" 1
          (sources world start options.words) () .new
          fun _ report _ text =>
            ((), report.print (joinLines lineMark
              ((linesBy lineMark text).filterMap cutting.line)))
        .ok (report.finish world (leftAfter? options.words))

------------------------------------------------------------
-- Side By Side
------------------------------------------------------------

/- The characters for the ends between columns; some are empty. -/
def betweenColumns : Chars → List Chars
  | '\\' :: c :: rest =>
    (match c with
      | '0' => []
      | 'n' => ['\n']
      | 't' => ['\t']
      | 'b' => ['\x08']
      | 'f' => ['\x0c']
      | 'r' => ['\r']
      | 'v' => ['\x0b']
      | c => [c]) :: betweenColumns rest
  | c :: rest => [c] :: betweenColumns rest
  | [] => []

/- Lines with marks between them, which are used in turn. -/
def interleave (marks : List Chars) : Nat → List Chars → Chars
  | _, [] => []
  | _, [line] => line
  | n, line :: rest =>
    line ++ (marks[n % marks.length]?).getD [] ++ interleave marks (n + 1) rest

/- Print lines side by side. -/
def paste (world : World) (start : Start) : Ran :=
  withOptions "paste" 1
    ⟨"sz", "d",
      [("delimiters", 'd'), ("serial", 's'), ("zero-terminated", 'z')]⟩
    world start fun options =>
      let mark := if options.has 'z' then '\x00' else '\n'
      let marks := match options.value? 'd' with
        | some text =>
          if text.isEmpty then [[]] else betweenColumns (Octet.ofText text)
        | none => [['\t']]
      let words := if options.words.isEmpty then [inputWord]
        else options.words
      let all := sources world start words
      -- The input is shared by all columns that stand for it.
      let inputs := (words.filter (· == inputWord)).length
      let input := linesBy mark (Octet.decode start.stdin)
      let columns := ((all.foldl
        (fun ((seen : Nat), (columns : List (List Chars))) source =>
          if source.isInput then
            (seen + 1,
              ((input.zipIdx.filter fun (_, i) =>
                i % inputs == seen).map Prod.fst) :: columns)
          else
            (seen,
              ((source.text.toOption.map (linesBy mark)).getD [])
                :: columns))
        (0, [])).2).reverse
      let complaints := all.filterMap fun source =>
        match source.text with
        | .error unread =>
          some (unread, unreadText "paste" source.name unread)
        | .ok _ => none
      let left? := leftAfter? words
      if options.has 's' then
        let (_, report) := overSources "paste" 1 all () .new
          fun _ report _ text =>
            ((), report.print
              (interleave marks 0 (linesBy mark text) ++ [mark]))
        .ok (report.finish world left?)
      else
        match complaints.find? fun (unread, _) => unread != .directory with
        | some (_, said) => .ok (Ran.complaining world 1 said)
        | none =>
          let report := complaints.foldl
            (fun (report : Report) (_, said) => report.complain 1 said) .new
          let height := (columns.map List.length).foldl max 0
          let rows := (List.range height).map fun i =>
            interleave marks 0 (columns.map fun column =>
              (column[i]?).getD [])
          .ok ((report.print (joinLines mark rows)).finish world left?)

------------------------------------------------------------
-- Numbers In Front Of Lines
------------------------------------------------------------

/- Which lines get numbers. -/
inductive Numbered where
  | all
  | full
  | none
  | matching (re : Regex)

/- How lines are numbered. -/
structure Numbering where
  /- For the head, the body and the foot of a page. -/
  styles : List Numbered
  first : Int
  step : Int
  joinsEmpty : Nat
  separator : Chars
  width : Nat
  form : String
  mark : Chars
  keepsOn : Bool

/- Where the numbering has come to. -/
structure NumberingState where
  number : Int
  part : Nat
  empty : Nat

namespace Numbering

/- A number in its form. -/
def shown (numbering : Numbering) (n : Int) : Chars :=
  let text := (toString n).toList
  match numbering.form with
  | "ln" => padRight numbering.width text
  | "rz" =>
    match text with
    | '-' :: digits =>
      '-' :: List.replicate (numbering.width - text.length) '0' ++ digits
    | text => List.replicate (numbering.width - text.length) '0' ++ text
  | _ => padLeft numbering.width text

/- The part of a page that a line starts. -/
def section? (numbering : Numbering) (line : Chars) : Option Nat :=
  let mark := numbering.mark
  if mark.isEmpty then none
  else if line == mark ++ mark ++ mark then some 0
  else if line == mark ++ mark then some 1
  else if line == mark then some 2
  else none

/- A line, and where the numbering is behind it. -/
def line (numbering : Numbering) (state : NumberingState) (line : Chars) :
    Chars × NumberingState :=
  match numbering.section? line with
  | some part =>
    (['\n'],
      { state with
        part
        empty := 0
        number := if numbering.keepsOn then state.number
          else numbering.first })
  | none =>
    let (isNumbered, empty) :=
      match numbering.styles[state.part]?.getD .none with
      | .all =>
        if line.isEmpty && numbering.joinsEmpty > 1 then
          if state.empty + 1 == numbering.joinsEmpty then (true, 0)
          else (false, state.empty + 1)
        else (true, 0)
      | .full => (!line.isEmpty, 0)
      | .none => (false, 0)
      | .matching re => (re.isIn ⟨line.toArray, false, false⟩, 0)
    if isNumbered then
      (numbering.shown state.number ++ numbering.separator ++ line ++ ['\n'],
        { state with number := state.number + numbering.step, empty })
    else
      (List.replicate (numbering.width + numbering.separator.length) ' '
          ++ line ++ ['\n'],
        { state with empty })

end Numbering

/- Which lines get numbers, as an option says it. -/
def Numbered.read (text : String) (what : String) :
    Except String Numbered :=
  match Octet.ofText text with
  | ['a'] => .ok .all
  | ['t'] => .ok .full
  | ['n'] => .ok .none
  | 'p' :: pattern =>
    match Regex.read ⟨false, true⟩ pattern with
    | .ok re => .ok (.matching re)
    | .error fault => .error fault.message
  | _ => .error ("invalid " ++ what ++ " numbering style: " ++ quoted text)

/- Print lines with numbers. -/
def nl (world : World) (start : Start) : Ran :=
  withOptions "nl" 1
    ⟨"p", "bdfhilnsvw",
      [("body-numbering", 'b'), ("section-delimiter", 'd'),
        ("footer-numbering", 'f'), ("header-numbering", 'h'),
        ("line-increment", 'i'), ("join-blank-lines", 'l'),
        ("number-format", 'n'), ("no-renumber", 'p'),
        ("number-separator", 's'), ("starting-line-number", 'v'),
        ("number-width", 'w')]⟩
    world start fun options => do
      let style (letter : Char) (initial what : String) :=
        Numbered.read ((options.value? letter).getD initial) what
      let header ← style 'h' "n" "header"
      let body ← style 'b' "t" "body"
      let footer ← style 'f' "n" "footer"
      let number (letter : Char) (initial : Int) (what : String) :
          Except String Int :=
        match options.value? letter with
        | none => .ok initial
        | some text =>
          match Numeral.signed? text.toList with
          | some n => .ok n
          | none => .error ("invalid " ++ what ++ ": " ++ quoted text)
      let first ← number 'v' 1 "starting line number"
      let step ← number 'i' 1 "line number increment"
      let empty ← number 'l' 1 "line number of blank lines"
      let width ← number 'w' 6 "line number field width"
      let form := (options.value? 'n').getD "rn"
      if !(["ln", "rn", "rz"].contains form) then
        .error ("invalid line numbering format: " ++ quoted form)
      else
        let mark := match (options.value? 'd').map Octet.ofText with
          | some [c] => [c, ':']
          | some text => text
          | none => ['\\', ':']
        let numbering : Numbering :=
          { styles := [header, body, footer]
            first, step
            joinsEmpty := empty.toNat
            separator := ((options.value? 's').map Octet.ofText).getD ['\t']
            width := width.toNat
            form, mark
            keepsOn := options.has 'p' }
        let (_, report) := overSources "nl" 1
          (sources world start options.words)
          (⟨first, 1, 0⟩ : NumberingState) .new
          fun state report _ text =>
            let (out, state) := (linesOf text).foldl
              (fun ((out : List Chars), (state : NumberingState)) line =>
                let (more, state) := numbering.line state line
                (more :: out, state))
              ([], state)
            (state, report.print out.reverse.flatten)
        .ok (report.finish world (leftAfter? options.words))

------------------------------------------------------------
-- Turning Around
------------------------------------------------------------

/- Print lines in reverse order. -/
def tac (world : World) (start : Start) : Ran :=
  withOptions "tac" 1
    ⟨"br", "s", [("before", 'b'), ("regex", 'r'), ("separator", 's')]⟩
    world start fun options =>
      let mark := match (options.value? 's').map Octet.ofText with
        | some [c] => c
        | _ => '\n'
      let reversed (text : Chars) : Chars :=
        if options.has 'b' then
          -- A mark belongs to what follows it.
          ((piecesBy mark text.reverse).map List.reverse).flatten
        else
          (piecesBy mark text).reverse.flatten
      let report := (sources world start options.words).foldl
        (fun (report : Report) source =>
          match source.text with
          | .ok text => report.print (reversed text)
          | .error .directory =>
            report.complain 1
              ("tac: " ++ source.name ++ ": read error: Invalid argument")
          | .error (.closed why) =>
            report.complain 1
              ("tac: failed to open " ++ quoted source.name
                ++ " for reading: " ++ why))
        .new
      .ok (report.finish world (leftAfter? options.words))

/- Print lines with their characters in reverse order. -/
def rev (world : World) (start : Start) : Ran :=
  withOptions "rev" 1 ⟨"", "", []⟩ world start fun options =>
    let report := (sources world start options.words).foldl
      (fun (report : Report) source =>
        match source.text with
        | .ok text =>
          report.print ((pieces text).flatMap fun piece =>
            let line := withoutMark '\n' piece
            line.reverse ++ piece.drop line.length)
        | .error unread =>
          report.complain 1
            ("rev: cannot open " ++ source.name ++ ": " ++ unread.why))
      .new
    .ok (report.finish world (leftAfter? options.words))

------------------------------------------------------------
-- Widths
------------------------------------------------------------

/- The column behind a character. -/
def columnBehind (countsBytes : Bool) (column : Nat) (c : Char) : Nat :=
  if countsBytes then column + 1
  else if c == '\x08' then column - 1
  else if c == '\r' then 0
  else if c == '\t' then column + (8 - column % 8)
  else column + 1

/- The column behind characters. -/
def columnOf (countsBytes : Bool) (text : Chars) : Nat :=
  text.foldl (columnBehind countsBytes) 0

/- Break a line that is too wide; `held` holds characters, newest first. -/
def foldLine (width : Nat) (countsBytes atBlanks : Bool) :
    Nat → Chars → Nat → Chars → Chars
  | 0, held, _, rest => held.reverse ++ rest
  | _, held, _, [] => held.reverse
  | fuel + 1, held, column, c :: rest =>
    let next := columnBehind countsBytes column c
    if next ≤ width || held.isEmpty then
      foldLine width countsBytes atBlanks fuel (c :: held) next rest
    else
      let behind := if atBlanks then held.takeWhile (!Octet.isBlank ·) else []
      let front := held.drop behind.length
      if atBlanks && !front.isEmpty then
        front.reverse ++ ['\n']
          ++ foldLine width countsBytes atBlanks fuel behind
            (columnOf countsBytes behind.reverse) (c :: rest)
      else
        held.reverse ++ ['\n']
          ++ foldLine width countsBytes atBlanks fuel [] 0 (c :: rest)

/- Break lines that are too wide. -/
def fold (world : World) (start : Start) : Ran :=
  let args := match start.args with
    | arg :: rest =>
      match arg.toList with
      | '-' :: c :: more =>
        if (c :: more).all Numeral.isDigit then
          "-w" :: String.ofList (c :: more) :: rest
        else arg :: rest
      | _ => arg :: rest
    | [] => []
  withOptions "fold" 1
    ⟨"bs", "w", [("bytes", 'b'), ("spaces", 's'), ("width", 'w')]⟩
    world { start with args } fun options =>
      let text := (options.value? 'w').getD "80"
      match Numeral.natural? 10 text.toList with
      | none | some 0 =>
        .ok (Ran.complaining world 1
          ("fold: invalid number of columns: " ++ quoted text))
      | some width =>
        let (_, report) := overSources "fold" 1
          (sources world start options.words) () .new
          fun _ report _ text =>
            ((), report.print ((pieces text).flatMap fun piece =>
              let line := withoutMark '\n' piece
              foldLine width (options.has 'b') (options.has 's')
                  (2 * line.length + 1) [] 0 line
                ++ piece.drop line.length))
        .ok (report.finish world (leftAfter? options.words))

/- Where the next tab leads to from a column. -/
def tabStop (stops : List Nat) (column : Nat) : Nat :=
  match stops with
  | [width] => column + (width - column % width)
  | stops => (stops.find? (column < ·)).getD (column + 1)

/- The stops that options ask for. -/
def tabStops (program : String) (options : Options) :
    Except String (List Nat) :=
  match options.value? 't' with
  | none => .ok [8]
  | some text =>
    let parts := (fieldsBy ','
      ((Octet.ofText text).map fun c => if Octet.isBlank c then ',' else c))
    let numbers := parts.map (Numeral.natural? 10 ·)
    if numbers.contains none then
      .error (program ++ ": tab size contains invalid character(s): "
        ++ quoted text)
    else if numbers.contains (some 0) then
      .error (program ++ ": tab size cannot be 0")
    else .ok (numbers.filterMap id)

/- A line with blanks for its tabs. -/
def expandLine (stops : List Nat) (onlyFirst : Bool) :
    Nat → Bool → Chars → Chars
  | _, _, [] => []
  | column, atStart, c :: rest =>
    if c == '\t' && (atStart || !onlyFirst) then
      let next := tabStop stops column
      List.replicate (next - column) ' '
        ++ expandLine stops onlyFirst next atStart rest
    else
      c :: expandLine stops onlyFirst
        (if c == '\x08' then column - 1 else column + 1)
        (atStart && c == ' ') rest

/- Print blanks for tabs. -/
def expand (world : World) (start : Start) : Ran :=
  withOptions "expand" 1 ⟨"i", "t", [("initial", 'i'), ("tabs", 't')]⟩
    world start fun options =>
      match tabStops "expand" options with
      | .error why => .ok (Ran.complaining world 1 why)
      | .ok stops =>
        let (_, report) := overSources "expand" 1
          (sources world start options.words) () .new
          fun _ report _ text =>
            ((), report.print ((pieces text).flatMap
              (expandLine stops (options.has 'i') 0 true)))
        .ok (report.finish world (leftAfter? options.words))

/- A line with tabs for blanks; `column` is where the blanks begin. -/
def unexpandLine (width : Nat) (everywhere : Bool) :
    Nat → Nat → Bool → Chars → Chars
  | column, blanks, _, [] => held column blanks
  | column, blanks, atStart, c :: rest =>
    if c == ' ' && (atStart || everywhere) then
      let next := column + blanks + 1
      if next % width == 0 then
        -- A single blank in front of a stop stays what it is.
        (if blanks == 0 && !atStart && rest.head? != some ' '
            && rest.head? != some '\t' then [' '] else ['\t'])
          ++ unexpandLine width everywhere next 0 atStart rest
      else
        unexpandLine width everywhere column (blanks + 1) atStart rest
    else if c == '\t' && (atStart || everywhere) then
      let next := column + blanks
      '\t' :: unexpandLine width everywhere (next + (width - next % width))
        0 atStart rest
    else
      held column blanks
        ++ c :: unexpandLine width everywhere (column + blanks + 1) 0 false rest
where
  /- Blanks that reach no stop. -/
  held (_ : Nat) (blanks : Nat) : Chars := List.replicate blanks ' '

/- Print tabs for blanks. -/
def unexpand (world : World) (start : Start) : Ran :=
  withOptions "unexpand" 1
    ⟨"a\x01", "t", [("all", 'a'), ("first-only", '\x01'), ("tabs", 't')]⟩
    world start fun options =>
      match tabStops "unexpand" options with
      | .error why => .ok (Ran.complaining world 1 why)
      | .ok stops =>
        let everywhere := (options.has 'a' || (options.value? 't').isSome)
          && !options.has '\x01'
        let (_, report) := overSources "unexpand" 1
          (sources world start options.words) () .new
          fun _ report _ text =>
            ((), report.print ((pieces text).flatMap
              (unexpandLine (stops.head?.getD 8) everywhere 0 0 true)))
        .ok (report.finish world (leftAfter? options.words))

end Tools

end Sandbox

end TreeLint
