import TreeLint.Sandbox.Tools.Inputs
import TreeLint.Text.Numeral

/-
  Programs that pass texts on.

  Key definitions include:
    * `Tools.cat`
    * `Tools.head`
    * `Tools.tail`
    * `Tools.wc`
    * `Tools.tee`

  A text comes out as it is, or a part of it does, or only how
  long it is.
-/

------------------------------------------------------------
-- Whole Texts
------------------------------------------------------------

namespace TreeLint

namespace Sandbox

namespace Tools

/- A character that cannot be seen, in a form that can. -/
def visible (c : Char) : Chars :=
  let low (n : Nat) : Chars :=
    if n < 32 then ['^', Char.ofNat (n + 64)]
    else if n == 127 then ['^', '?']
    else [Char.ofNat n]
  if c.toNat < 128 then low c.toNat
  else 'M' :: '-' :: low (c.toNat - 128)

/- How lines are shown. -/
structure Showing where
  numbersAll : Bool
  numbersFull : Bool
  endsShown : Bool
  tabsShown : Bool
  hiddenShown : Bool
  squeezes : Bool

/- Where the showing of lines has come to. -/
structure Shown where
  number : Nat
  /- Empty lines one after another. -/
  empty : Nat
  /- The last line has no end yet. -/
  isOpen : Bool

namespace Showing

/- A character of a line. -/
def char (showing : Showing) (c : Char) : Chars :=
  if c == '\n' then [c]
  else if c == '\t' then if showing.tabsShown then ['^', 'I'] else [c]
  else if showing.hiddenShown then visible c
  else [c]

/- The characters of a line, with its end. -/
def body (showing : Showing) (line : Chars) : Chars :=
  let text := withoutMark '\n' line
  let hasEnd := text.length < line.length
  let (text, carriage) :=
    if showing.endsShown && !showing.hiddenShown && hasEnd
        && text.getLast? == some '\r' then
      (text.dropLast, ['^', 'M'])
    else
      (text, [])
  text.flatMap showing.char ++ carriage
    ++ (if !hasEnd then [] else if showing.endsShown then ['$', '\n']
      else ['\n'])

/- A line, and where the showing is behind it. -/
def line (showing : Showing) (shown : Shown) (line : Chars) :
    Chars × Shown :=
  let isEmpty := !shown.isOpen && line == ['\n']
  let empty := if isEmpty then shown.empty + 1 else 0
  let isOpen := line.getLast? != some '\n'
  if showing.squeezes && empty > 1 then
    ([], { shown with empty, isOpen })
  else if !shown.isOpen
      && (showing.numbersFull && !isEmpty
        || showing.numbersAll && !showing.numbersFull) then
    (padLeft 6 (digits shown.number) ++ ['\t'] ++ showing.body line,
      ⟨shown.number + 1, empty, isOpen⟩)
  else
    (showing.body line, { shown with empty, isOpen })

end Showing

/- Print texts one after another. -/
def cat (world : World) (start : Start) : Ran :=
  withOptions "cat" 1
    ⟨"AbeEnstTuv", "",
      [("show-all", 'A'), ("number-nonblank", 'b'), ("show-ends", 'E'),
        ("number", 'n'), ("squeeze-blank", 's'), ("show-tabs", 'T'),
        ("show-nonprinting", 'v')]⟩
    world start fun options =>
      let has (letters : String) : Bool := letters.toList.any options.has
      let showing : Showing :=
        { numbersAll := has "n"
          numbersFull := has "b"
          endsShown := has "AeE"
          tabsShown := has "AtT"
          hiddenShown := has "Aetv"
          squeezes := has "s" }
      let (_, report) := overSources "cat" 1
        (sources world start options.words) (⟨1, 0, false⟩ : Shown) .new
        fun shown report _ text =>
          let (out, shown) := (pieces text).foldl
            (fun (out, shown) line =>
              let (more, shown) := showing.line shown line
              (more :: out, shown))
            (([] : List Chars), shown)
          (shown, report.print out.reverse.flatten)
      .ok (report.finish world (leftAfter? options.words))

/- Print the input, and write it to files too. -/
def tee (world : World) (start : Start) : Ran :=
  withOptions "tee" 1
    ⟨"aip", "",
      [("append", 'a'), ("ignore-interrupts", 'i'), ("output-error", 'p')]⟩
    world start fun options =>
      let (world, report) := options.words.foldl
        (fun ((world : World), (report : Report)) p =>
          match world.files.write? start.cwd p fun old =>
              if options.has 'a' then old ++ start.stdin else start.stdin with
          | .ok files => (world.withFiles files, report)
          | .error e =>
            (world, report.complain 1
              ("tee: " ++ p ++ ": "
                ++ (if (world.files.directory? start.cwd p).isSome
                  then "Is a directory" else reason e))))
        (world, .new)
      .ok ((report.print (Octet.decode start.stdin)).finish world (some []))

------------------------------------------------------------
-- Parts Of Texts
------------------------------------------------------------

/- What is counted, and how many there are to be. -/
structure Extent where
  isBytes : Bool
  /- The count is from the other end. -/
  isOpposite : Bool
  count : Nat
deriving DecidableEq, Repr

/- What a letter behind a number multiplies it by. -/
def unit? (suffix : String) : Option Nat :=
  match suffix with
  | "" => some 1
  | "b" => some 512
  | "kB" => some 1000
  | "k" => some 1024
  | "K" => some 1024
  | "KiB" => some 1024
  | "MB" => some 1000000
  | "m" => some 1048576
  | "M" => some 1048576
  | "MiB" => some 1048576
  | "GB" => some 1000000000
  | "G" => some 1073741824
  | "GiB" => some 1073741824
  | _ => none

/- A number with a unit behind it. -/
def amount? (text : List Char) : Option Nat :=
  let number := text.takeWhile Numeral.isDigit
  match Numeral.natural? 10 number,
      unit? (String.ofList (text.drop number.length)) with
  | some n, some unit => some (n * unit)
  | _, _ => none

namespace Extent

/- An extent as an option gives it; a sign may turn it around. -/
def read? (isBytes : Bool) (turning : Char) (text : String) :
    Option Extent :=
  match text.toList with
  | c :: rest =>
    if c == turning then (amount? rest).map (⟨isBytes, true, ·⟩)
    else if c == '-' || c == '+' then
      (amount? rest).map (⟨isBytes, false, ·⟩)
    else (amount? (c :: rest)).map (⟨isBytes, false, ·⟩)
  | [] => none

/- The units of a text. -/
def units (extent : Extent) (mark : Char) (text : Chars) : List Chars :=
  if extent.isBytes then text.map ([·]) else piecesBy mark text

/- The first part of a text. -/
def first (extent : Extent) (mark : Char) (text : Chars) : Chars :=
  let units := extent.units mark text
  (units.take
    (if extent.isOpposite then units.length - extent.count
    else extent.count)).flatten

/- The last part of a text. -/
def last (extent : Extent) (mark : Char) (text : Chars) : Chars :=
  let units := extent.units mark text
  (units.drop
    (if extent.isOpposite then extent.count - 1
    else units.length - extent.count)).flatten

end Extent

/- An old way to give the count: as an option of its own. -/
def oldCount? (signs : List Char) (args : List String) :
    Option (Extent × List Char × List String) :=
  match args with
  | arg :: rest =>
    match arg.toList with
    | sign :: text =>
      let number := text.takeWhile Numeral.isDigit
      let letters := text.drop number.length
      if signs.contains sign && !number.isEmpty
          && letters.all (fun c => "bckmlqvzf".toList.contains c) then
        let unit := if letters.contains 'b' then 512
          else if letters.contains 'k' then 1024
          else if letters.contains 'm' then 1048576
          else 1
        (Numeral.natural? 10 number).map fun n =>
          (⟨letters.any (fun c => c == 'c' || c == 'b'), sign == '+',
              n * unit⟩, letters, rest)
      else
        none
    | [] => none
  | [] => none

/- A part of each of some texts, with their names where wanted. -/
def partsOf
    (program : String)
    (options : Options)
    (old : List Char)
    (world : World)
    (start : Start)
    (part : Chars → Chars) : Report :=
  let words := options.words
  let isQuiet := options.last "qv" == some 'q' || old.contains 'q'
  let isNamed :=
    !isQuiet && (options.has 'v' || old.contains 'v' || words.length > 1)
  let heading (isFirst : Bool) (source : Source) : Chars :=
    let name :=
      if source.isInput then "standard input" else source.name
    (if isFirst then [] else ['\n'])
      ++ Octet.ofText ("==> " ++ name ++ " <==\n")
  ((sources world start words).foldl
    (fun ((isFirst : Bool), (report : Report)) source =>
      let named := if isNamed then report.print (heading isFirst source)
        else report
      match source.text with
      | .ok text => (false, named.print (part text))
      | .error .directory =>
        (false, named.complain 1
          (program ++ ": error reading " ++ quoted source.name
            ++ ": Is a directory"))
      | .error (.closed why) =>
        (isFirst, report.complain 1
          (program ++ ": cannot open " ++ quoted source.name
            ++ " for reading: " ++ why)))
    (true, .new)).2

/- How much is asked for; otherwise ten lines, or what is wrong. -/
def extent? (program : String) (turning : Char) (old : Option Extent)
    (options : Options) : Except String Extent :=
  match options.last "nc" with
  | none => .ok (old.getD ⟨false, false, 10⟩)
  | some letter =>
    let text := (options.value? letter).getD ""
    match Extent.read? (letter == 'c') turning text with
    | some extent => .ok extent
    | none =>
      let shown := String.ofList
        (text.toList.dropWhile (fun c => c == '-' && turning == '-'))
      .error
        (program ++ ": invalid number of "
          ++ (if letter == 'c' then "bytes" else "lines") ++ ": "
          ++ quoted shown)

/- Print the first part of texts. -/
def head (world : World) (start : Start) : Ran :=
  let old := oldCount? ['-'] start.args
  let (oldExtent, oldLetters, args) :=
    match old with
    | some (extent, letters, rest) => (some extent, letters, rest)
    | none => (none, [], start.args)
  withOptions "head" 1
    ⟨"qvz", "nc",
      [("bytes", 'c'), ("lines", 'n'), ("quiet", 'q'), ("silent", 'q'),
        ("verbose", 'v'), ("zero-terminated", 'z')]⟩
    world { start with args } fun options =>
      match extent? "head" '-' oldExtent options with
      | .error why => .ok (Ran.complaining world 1 why)
      | .ok extent =>
        let mark := if options.has 'z' then '\x00' else '\n'
        let part := extent.first mark
        let left? := (leftAfter? options.words).map fun nothing =>
          if start.isSeekable then
            start.stdin.drop (part (Octet.decode start.stdin)).length
          else
            nothing
        .ok ((partsOf "head" options oldLetters world start part).finish
          world left?)

/- Print the last part of texts. -/
def tail (world : World) (start : Start) : Ran :=
  let old := oldCount? ['-', '+'] start.args
  let (oldExtent, oldLetters, args) :=
    match old with
    | some (extent, letters, rest) => (some extent, letters, rest)
    | none => (none, [], start.args)
  withOptions "tail" 1
    ⟨"fFqvz", "ncs",
      [("bytes", 'c'), ("lines", 'n'), ("quiet", 'q'), ("silent", 'q'),
        ("verbose", 'v'), ("zero-terminated", 'z'), ("follow", 'f'),
        ("retry", 'F')]⟩
    world { start with args } fun options =>
      match extent? "tail" '+' oldExtent options with
      | .error why => .ok (Ran.complaining world 1 why)
      | .ok extent =>
        let mark := if options.has 'z' then '\x00' else '\n'
        .ok ((partsOf "tail" options oldLetters world start
          (extent.last mark)).finish world (leftAfter? options.words))

------------------------------------------------------------
-- Lengths
------------------------------------------------------------

/- Whether a character can be seen or is a blank. -/
def isPrinted (c : Char) : Bool :=
  ' ' ≤ c && c ≤ '~'

/- The number of words; what cannot be seen does not make a word. -/
def countWords (text : Chars) : Nat :=
  (text.foldl
    (fun ((n : Nat), (inWord : Bool)) c =>
      if Octet.isSpace c then (n, false)
      else if isPrinted c && !inWord then (n + 1, true)
      else (n, inWord))
    (0, false)).1

/- The width of the widest line. -/
def widest (text : Chars) : Nat :=
  let (most, width) := text.foldl
    (fun ((most : Nat), (width : Nat)) c =>
      if c == '\n' || c == '\r' || c == '\x0c' then (max most width, 0)
      else if c == '\t' then (most, width / 8 * 8 + 8)
      else if isPrinted c then (most, width + 1)
      else (most, width))
    (0, 0)
  max most width

/- Count lines, words and bytes. -/
def wc (world : World) (start : Start) : Ran :=
  withOptions "wc" 1
    ⟨"clLmw", "",
      [("bytes", 'c'), ("chars", 'm'), ("lines", 'l'), ("words", 'w'),
        ("max-line-length", 'L')]⟩
    world start fun options =>
      let asked := ['l', 'w', 'm', 'c', 'L'].filter options.has
      let asked := if asked.isEmpty then ['l', 'w', 'c'] else asked
      let counts (text : Chars) : List Nat := asked.map fun letter =>
        match letter with
        | 'l' => text.count '\n'
        | 'w' => countWords text
        | 'L' => widest text
        | _ => text.length
      let all := sources world start options.words
      let isFile (source : Source) : Bool :=
        if source.isInput then start.isSeekable
        else world.files.isFile start.cwd source.name
      let size := (all.filter isFile).foldl
        (fun size source =>
          size + (match source.text with
            | .ok text => text.length
            | .error _ => 0)) 0
      let isMissing (source : Source) : Bool :=
        match source.text with
        | .error (.closed _) => true
        | _ => false
      let width :=
        if asked.length == 1 && all.length == 1
            || (all.head?.any isMissing) then 1
        else
          max (digits size).length
            (if all.all (fun s => isFile s || isMissing s) then 1 else 7)
      let row (counts : List Nat) (name : String) : Chars :=
        joinWith [' '] (counts.map fun n => padLeft width (digits n))
          ++ Octet.ofText ((if name.isEmpty then "" else " " ++ name) ++ "\n")
      let (sums, report) := all.foldl
        (fun ((sums : List Nat), (report : Report)) source =>
          let name := if options.words.isEmpty then "" else source.name
          match source.text with
          | .ok text =>
            (List.zipWith
                (fun (letter, a) b => if letter == 'L' then max a b else a + b)
                (asked.zip sums) (counts text),
              report.print (row (counts text) name))
          | .error unread =>
            let report := report.complain 1
              (unreadText "wc" source.name unread)
            (sums,
              if unread == .directory then
                report.print (row (asked.map fun _ => 0) name)
              else
                report))
        (asked.map fun _ => 0, .new)
      let report := if all.length > 1 then report.print (row sums "total")
        else report
      .ok (report.finish world (leftAfter? options.words))

end Tools

end Sandbox

end TreeLint
