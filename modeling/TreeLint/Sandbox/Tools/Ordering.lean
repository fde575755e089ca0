import TreeLint.Sandbox.Tools.Inputs
import TreeLint.Text.Numeral

/-
  Programs about the order of lines.

  Key definitions include:
    * `Tools.SortKey`
    * `Tools.sort`
    * `Tools.uniq`
    * `Tools.comm`

  Lines are compared as a whole or by keys, which are parts of
  lines with a way of comparing them.  Lines whose keys are
  equal are compared as a whole in the end.
-/

------------------------------------------------------------
-- Ways Of Comparing
------------------------------------------------------------

namespace TreeLint

namespace Sandbox

namespace Tools

/- The number at the start of a text, in parts. -/
structure Figure where
  isNegative : Bool
  /- The digits before the point, with no zero in front. -/
  whole : Chars
  /- The digits behind the point, with no zero at the end. -/
  fraction : Chars
  rest : Chars

namespace Figure

/- The number at the start of a text; without digits it is zero. -/
def read (text : Chars) : Figure :=
  let text := text.dropWhile Octet.isBlank
  let (isNegative, text) := match text with
    | '-' :: rest => (true, rest)
    | text => (false, text)
  let whole := text.takeWhile Numeral.isDigit
  let behind := text.drop whole.length
  let (fraction, rest) := match behind with
    | '.' :: rest => rest.span Numeral.isDigit
    | rest => ([], rest)
  ⟨isNegative, whole.dropWhile (· == '0'),
    (fraction.reverse.dropWhile (· == '0')).reverse, rest⟩

/- Whether the number is zero. -/
def isZero (figure : Figure) : Bool :=
  figure.whole.isEmpty && figure.fraction.isEmpty

/- Compare two numbers that are not negative. -/
def compareSize (a b : Figure) : Ordering :=
  (compare a.whole.length b.whole.length).then
    ((compare a.whole b.whole).then (compare a.fraction b.fraction))

/- Compare two numbers. -/
def compareTo (a b : Figure) : Ordering :=
  match a.isNegative && !a.isZero, b.isNegative && !b.isZero with
  | true, true => compareSize b a
  | true, false => .lt
  | false, true => .gt
  | false, false => compareSize a b

end Figure

/- The rank of a unit behind a number. -/
def unitRank (figure : Figure) : Int :=
  let letters := "KMGTPEZYRQ".toList
  let rank : Nat := match figure.rest with
    | 'k' :: _ => 1
    | c :: _ => if letters.contains c then letters.idxOf c + 1 else 0
    | [] => 0
  if figure.isZero then 0
  else if figure.isNegative then -(Int.ofNat rank)
  else Int.ofNat rank

/- Compare numbers that may have units. -/
def compareUnits (a b : Chars) : Ordering :=
  let a := Figure.read a
  let b := Figure.read b
  (compare (unitRank a) (unitRank b)).then (a.compareTo b)

/- The number of the month that a text starts with. -/
def month (text : Chars) : Nat :=
  let name := String.ofList
    (((text.dropWhile Octet.isBlank).take 3).map Char.toUpper)
  match ["JAN", "FEB", "MAR", "APR", "MAY", "JUN", "JUL", "AUG", "SEP",
      "OCT", "NOV", "DEC"].findIdx? (· == name) with
  | some i => i + 1
  | none => 0

/- A number with a power of ten, as the general way reads it. -/
inductive General where
  | none
  | undefined
  | negativeInfinity
  | number (mantissa : Int) (power : Int)
  | infinity
deriving DecidableEq, Repr

namespace General

/- The number at the start of a text. -/
def read (text : Chars) : General :=
  let text := text.dropWhile Octet.isSpace
  let (sign, text) : Int × Chars := match text with
    | '-' :: rest => (-1, rest)
    | '+' :: rest => (1, rest)
    | text => (1, text)
  let name := String.ofList ((text.take 3).map Char.toLower)
  if name == "inf" then if sign == 1 then infinity else negativeInfinity
  else if name == "nan" then undefined
  else
    let whole := text.takeWhile Numeral.isDigit
    let behind := text.drop whole.length
    let (fraction, rest) := match behind with
      | '.' :: rest => rest.span Numeral.isDigit
      | rest => ([], rest)
    if whole.isEmpty && fraction.isEmpty then none
    else
      let power : Int := match rest with
        | e :: rest =>
          if e == 'e' || e == 'E' then
            match rest with
            | '-' :: rest =>
              -(Int.ofNat ((Numeral.natural? 10
                (rest.takeWhile Numeral.isDigit)).getD 0))
            | '+' :: rest =>
              Int.ofNat ((Numeral.natural? 10
                (rest.takeWhile Numeral.isDigit)).getD 0)
            | rest =>
              Int.ofNat ((Numeral.natural? 10
                (rest.takeWhile Numeral.isDigit)).getD 0)
          else 0
        | [] => 0
      number
        (sign * Int.ofNat
          ((Numeral.natural? 10 (whole ++ fraction)).getD 0))
        (power - Int.ofNat fraction.length)

/- The rank of a kind of number. -/
def rank : General → Nat
  | none => 0
  | undefined => 1
  | negativeInfinity => 2
  | number _ _ => 3
  | infinity => 4

/- Compare two numbers. -/
def compareTo (a b : General) : Ordering :=
  match a, b with
  | number m p, number n q =>
    let low := min p q
    let scaled (m p : Int) : Int :=
      m * Int.pow 10 (min (p - low).toNat 5000)
    compare (scaled m p) (scaled n q)
  | a, b => compare a.rank b.rank

end General

------------------------------------------------------------
-- Versions
------------------------------------------------------------

/- The rank of a character in the name of a version. -/
def versionRank : Option Char → Int
  | none => -1
  | some c =>
    if Numeral.isDigit c then 0
    else if c.isAlpha then Int.ofNat c.toNat
    else if c == '~' then -2
    else Int.ofNat (c.toNat + 256)

/- Compare characters up to the next digits of both. -/
def compareMarks : Nat → Chars → Chars → Except Ordering (Chars × Chars)
  | 0, a, b => .ok (a, b)
  | fuel + 1, a, b =>
    let isMark (text : Chars) : Bool :=
      text.head?.any (fun c => !Numeral.isDigit c)
    if isMark a || isMark b then
      match compare (versionRank a.head?) (versionRank b.head?) with
      | .eq => compareMarks fuel (a.drop 1) (b.drop 1)
      | order => .error order
    else
      .ok (a, b)

/- Compare texts with numbers in them. -/
def compareVersionText : Nat → Chars → Chars → Ordering
  | 0, _, _ => .eq
  | fuel + 1, a, b =>
    if a.isEmpty && b.isEmpty then .eq
    else
      match compareMarks (a.length + b.length + 1) a b with
      | .error order => order
      | .ok (a, b) =>
        let a := a.dropWhile (· == '0')
        let b := b.dropWhile (· == '0')
        let m := a.takeWhile Numeral.isDigit
        let n := b.takeWhile Numeral.isDigit
        match (compare m.length n.length).then (compare m n) with
        | .eq =>
          compareVersionText fuel (a.drop m.length) (b.drop n.length)
        | order => order

/- The part of a name in front of its endings. -/
def beforeEndings : Nat → Chars → Chars
  | 0, name => name
  | fuel + 1, name =>
    let ending := (name.reverse.takeWhile (fun c =>
      c.isAlphanum || c == '~')).reverse
    let front := name.take (name.length - ending.length)
    match ending, front.getLast? with
    | c :: _, some '.' =>
      if !Numeral.isDigit c && front.length > 1 then
        beforeEndings fuel front.dropLast
      else
        name
    | _, _ => name

/- Compare names of versions. -/
def compareVersions (a b : Chars) : Ordering :=
  let rank (name : Chars) : Nat :=
    match name with
    | [] => 0
    | ['.'] => 1
    | ['.', '.'] => 2
    | '.' :: _ => 3
    | _ => 4
  match compare (rank a) (rank b) with
  | .eq =>
    let fuel := a.length + b.length + 1
    let order := compareVersionText fuel
      (beforeEndings fuel a) (beforeEndings fuel b)
    order.then (compareVersionText fuel a b)
  | order => order

------------------------------------------------------------
-- Keys
------------------------------------------------------------

/- How a key is compared. -/
structure KeyManner where
  /- A letter that stands for a way of comparing. -/
  way? : Option Char
  foldsCase : Bool
  onlyDictionary : Bool
  onlyPrinted : Bool
  isReversed : Bool
  skipsStart : Bool
  skipsEnd : Bool
deriving DecidableEq, Repr

namespace KeyManner

/- The manner when nothing is asked for. -/
def plain : KeyManner :=
  ⟨none, false, false, false, false, false, false⟩

/- Whether nothing is asked for but the order being turned around. -/
def isPlain (manner : KeyManner) : Bool :=
  { manner with isReversed := false } == plain

/- The manner with one more letter. -/
def add? (atStart atEnd : Bool) (manner : KeyManner) (letter : Char) :
    Option KeyManner :=
  match letter with
  | 'b' => some { manner with
      skipsStart := manner.skipsStart || atStart
      skipsEnd := manner.skipsEnd || atEnd }
  | 'd' => some { manner with onlyDictionary := true }
  | 'f' => some { manner with foldsCase := true }
  | 'i' => some { manner with onlyPrinted := true }
  | 'r' => some { manner with isReversed := true }
  | c =>
    if "ghMnRV".toList.contains c then some { manner with way? := some c }
    else none

/- The characters of a key that are compared. -/
def seen (manner : KeyManner) (text : Chars) : Chars :=
  let text := if manner.onlyDictionary then
      text.filter fun c => c.isAlphanum || Octet.isBlank c
    else if manner.onlyPrinted then text.filter fun c => ' ' ≤ c && c ≤ '~'
    else text
  if manner.foldsCase then text.map Char.toUpper else text

/- Compare two keys. -/
def compareKeys (manner : KeyManner) (a b : Chars) : Ordering :=
  let a := manner.seen a
  let b := manner.seen b
  let order := match manner.way? with
    | some 'n' => (Figure.read a).compareTo (Figure.read b)
    | some 'h' => compareUnits a b
    | some 'g' => (General.read a).compareTo (General.read b)
    | some 'M' => compare (month a) (month b)
    | some 'V' => compareVersions a b
    | _ => compare a b
  if manner.isReversed then order.swap else order

end KeyManner

/- A part of a line that is compared. -/
structure SortKey where
  /- How many fields and characters are in front of the key. -/
  firstField : Nat
  firstChar : Nat
  /- The last field and how many characters of it, if there is an end. -/
  last? : Option (Nat × Nat)
  manner : KeyManner
deriving DecidableEq, Repr

namespace SortKey

/- A line behind so many fields. -/
def skipFields (tab? : Option Char) : Nat → Chars → Chars
  | 0, line => line
  | n + 1, line =>
    match tab? with
    | some tab => skipFields tab? n ((line.dropWhile (· != tab)).drop 1)
    | none =>
      skipFields tab? n
        ((line.dropWhile Octet.isBlank).dropWhile (!Octet.isBlank ·))

/- Where a key starts in a line. -/
def start (key : SortKey) (tab? : Option Char) (line : Chars) : Nat :=
  let rest := skipFields tab? key.firstField line
  let rest := if key.manner.skipsStart then rest.dropWhile Octet.isBlank
    else rest
  min line.length (line.length - rest.length + key.firstChar)

/- Where a key ends in a line. -/
def stop (key : SortKey) (tab? : Option Char) (line : Chars) : Nat :=
  match key.last? with
  | none => line.length
  | some (field, 0) =>
    match tab? with
    | some tab =>
      let rest := skipFields tab? field line
      line.length - (rest.dropWhile (· != tab)).length
    | none => line.length - (skipFields tab? (field + 1) line).length
  | some (field, n + 1) =>
    let rest := skipFields tab? field line
    let rest := if key.manner.skipsEnd then rest.dropWhile Octet.isBlank
      else rest
    min line.length (line.length - rest.length + n + 1)

/- The characters of a key in a line. -/
def part (key : SortKey) (tab? : Option Char) (line : Chars) : Chars :=
  let start := key.start tab? line
  (line.take (key.stop tab? line)).drop start

/- A number in the description of a key, and what follows it. -/
def count (complaint : String) (text : Chars) :
    Except String (Nat × Chars) :=
  let number := text.takeWhile Numeral.isDigit
  match Numeral.natural? 10 number with
  | some n => .ok (n, text.drop number.length)
  | none =>
    .error (complaint ++ ": invalid count at start of "
      ++ quoted (Octet.toText text))

/- A place in the description of a key: a field and a character. -/
def place (text : Chars) (complaint : String) :
    Except String (Nat × Option Nat × Chars) := do
  let (field, rest) ← count complaint text
  match rest with
  | '.' :: rest =>
    let (char, rest) ← count "invalid number after '.'" rest
    .ok (field, some char, rest)
  | rest => .ok (field, none, rest)

/- The letters at a place in the description of a key. -/
def letters (atStart atEnd : Bool) :
    KeyManner → Chars → KeyManner × Chars
  | manner, [] => (manner, [])
  | manner, c :: rest =>
    match manner.add? atStart atEnd c with
    | some manner => letters atStart atEnd manner rest
    | none => (manner, c :: rest)

/- Read the description of a key. -/
def read (description : String) : Except String SortKey := do
  let wrong (why : String) : Except String SortKey :=
    .error (why ++ ": invalid field specification " ++ quoted description)
  let (field, char?, rest) ←
    place (Octet.ofText description) "invalid number at field start"
  if field == 0 then wrong "field number is zero"
  else if char? == some 0 then wrong "character offset is zero"
  else
    let (manner, rest) := letters true false .plain rest
    let key : SortKey := ⟨field - 1, char?.getD 1 - 1, none, manner⟩
    match rest with
    | [] => .ok key
    | ',' :: rest =>
      let (field, char?, rest) ← place rest "invalid number after ','"
      if field == 0 then wrong "field number is zero"
      else
        let (manner, rest) := letters false true manner rest
        if rest.isEmpty then
          .ok { key with last? := some (field - 1, char?.getD 0), manner }
        else
          wrong "stray character in field spec"
    | _ => wrong "stray character in field spec"

end SortKey

------------------------------------------------------------
-- Sorting
------------------------------------------------------------

/- How lines are sorted. -/
structure Sorting where
  keys : List SortKey
  tab? : Option Char
  isReversed : Bool
  /- Lines with equal keys are not compared further. -/
  isStable : Bool
  isUnique : Bool

namespace Sorting

/- Compare two lines by their keys. -/
def compareByKeys (sorting : Sorting) (a b : Chars) : Ordering :=
  sorting.keys.foldl
    (fun order key =>
      order.then (key.manner.compareKeys
        (key.part sorting.tab? a) (key.part sorting.tab? b)))
    .eq

/- Compare two lines. -/
def compareLines (sorting : Sorting) (a b : Chars) : Ordering :=
  let order := sorting.compareByKeys a b
  if order != .eq || (sorting.isStable || sorting.isUnique)
      && !sorting.keys.isEmpty then
    order
  else if sorting.isReversed then compare b a
  else compare a b

/- Drop lines that are equal to the one before. -/
def withoutEquals (sorting : Sorting) : List Chars → List Chars
  | a :: b :: rest =>
    if sorting.compareLines a b == .eq then
      withoutEquals sorting (a :: rest)
    else
      a :: withoutEquals sorting (b :: rest)
  | lines => lines
termination_by lines => lines.length

/- Sort lines. -/
def apply (sorting : Sorting) (lines : List Chars) : List Chars :=
  let sorted := lines.mergeSort
    fun a b => sorting.compareLines a b != .gt
  if sorting.isUnique then sorting.withoutEquals sorted else sorted

/- The first line that is out of order, with its number. -/
def disorder? (sorting : Sorting) :
    Nat → List Chars → Option (Nat × Chars)
  | n, a :: b :: rest =>
    let order := sorting.compareLines a b
    if order == .gt || (sorting.isUnique && order == .eq) then
      some (n + 1, b)
    else
      disorder? sorting (n + 1) (b :: rest)
  | _, _ => none

end Sorting

/- The options of the program that sorts. -/
def sortOptions : OptionTable :=
  ⟨"bcCdfghiMnmrRsuVz", "koStT\x01\x02\x03\x04",
    [ ("ignore-leading-blanks", 'b'), ("check", 'c'),
      ("dictionary-order", 'd'), ("ignore-case", 'f'),
      ("general-numeric-sort", 'g'), ("human-numeric-sort", 'h'),
      ("ignore-nonprinting", 'i'), ("key", 'k'), ("merge", 'm'),
      ("month-sort", 'M'), ("numeric-sort", 'n'), ("output", 'o'),
      ("random-sort", 'R'), ("reverse", 'r'), ("stable", 's'),
      ("buffer-size", 'S'), ("field-separator", 't'),
      ("temporary-directory", 'T'), ("unique", 'u'), ("version-sort", 'V'),
      ("zero-terminated", 'z'), ("parallel", '\x01'),
      ("batch-size", '\x02'), ("compress-program", '\x03'),
      ("sort", '\x04') ]⟩

/- The letter for the name of a way of comparing. -/
def wayLetter? (name : String) : Option Char :=
  [("general-numeric", 'g'), ("human-numeric", 'h'), ("month", 'M'),
    ("numeric", 'n'), ("random", 'R'), ("version", 'V')].findSome?
      fun (full, letter) => if full.startsWith name then some letter else none

/- The sorting that options ask for, or what is wrong with them. -/
def Sorting.ofOptions (options : Options) : Except String Sorting := do
  let letters := options.letters.filterMap fun (letter, value) =>
    if letter == '\x04' then wayLetter? value else some letter
  let ways := ("ghMnRV".toList.filter letters.contains).filter (· != 'R')
  if ways.length > 1 then
    .error ("options '-" ++ String.ofList ("MVghn".toList.filter ways.contains)
      ++ "' are incompatible")
  let overall := letters.foldl
    (fun (manner : KeyManner) letter =>
      (manner.add? true true letter).getD manner)
    .plain
  let keys ← (options.values 'k').mapM SortKey.read
  let keys := keys.map fun key =>
    if key.manner == .plain then
      { key with manner := overall }
    else
      key
  let keys := if keys.isEmpty && !overall.isPlain then
      [⟨0, 0, none, overall⟩]
    else keys
  let tab? ← match options.value? 't' with
    | none => .ok none
    | some text =>
      match Octet.ofText text with
      | [] => .error "empty tab"
      | [c] => .ok (some c)
      | ['\\', '0'] => .ok (some '\x00')
      | _ => .error ("multi-character tab " ++ quoted text)
  .ok
    { keys, tab?
      isReversed := overall.isReversed
      isStable := letters.contains 's'
      isUnique := letters.contains 'u' }

/- Write a text to a file. -/
def writeText (world : World) (cwd : Location) (p : Path) (text : Chars) :
    Except String World :=
  match world.files.write? cwd p (fun _ => Octet.encode text) with
  | .ok files => .ok (world.withFiles files)
  | .error e =>
    .error (if (world.files.directory? cwd p).isSome then "Is a directory"
      else reason e)

/- Sort lines. -/
def sort (world : World) (start : Start) : Ran :=
  withOptions "sort" 2 sortOptions world start fun options =>
    let fail (why : String) : Except String Ran :=
      .ok (Ran.complaining world 2 ("sort: " ++ why))
    match Sorting.ofOptions options with
    | .error why => fail why
    | .ok sorting =>
      let all := sources world start options.words
      let left? := leftAfter? options.words
      let mark := if options.has 'z' then '\x00' else '\n'
      match all.findSome? fun source =>
          match source.text with
          | .error .directory =>
            some ("read failed: " ++ source.name ++ ": Is a directory")
          | .error (.closed why) =>
            some ("cannot read: " ++ source.name ++ ": " ++ why)
          | .ok _ => none with
      | some why => fail why
      | none =>
        let lines := all.flatMap fun source =>
          (source.text.toOption.map (linesBy mark)).getD []
        if options.has 'c' || options.has 'C' then
          match options.words with
          | _ :: extra :: _ =>
            fail ("extra operand " ++ quoted extra ++ " not allowed with -"
              ++ (if options.has 'c' then "c" else "C"))
          | words =>
            match sorting.disorder? 1 lines with
            | none => .ok ((Report.new).finish world left?)
            | some (n, line) =>
              let isQuiet := options.has 'C'
                || (options.value? 'c').any
                  (fun how => how == "quiet" || how == "silent")
              let said := "sort: " ++ (words.head?.getD "-") ++ ":"
                ++ toString n ++ ": disorder: " ++ Octet.toText line
              .ok ((if isQuiet then { Report.new with status := 1 }
                else Report.new.complain 1 said).finish world left?)
        else
          let text := joinLines mark (sorting.apply lines)
          match options.value? 'o' with
          | none => .ok ((Report.new.print text).finish world left?)
          | some p =>
            match writeText world start.cwd p text with
            | .ok world => .ok (Report.new.finish world left?)
            | .error why => fail ("open failed: " ++ p ++ ": " ++ why)

------------------------------------------------------------
-- Repeated Lines
------------------------------------------------------------

/- The part of a line by which it is compared with its neighbour. -/
def uniqKey (options : Options) (fields chars : Nat)
    (width? : Option Nat) (line : Chars) : Chars :=
  let rest := (SortKey.skipFields none fields line).drop chars
  let rest := match width? with
    | some width => rest.take width
    | none => rest
  if options.has 'i' then rest.map Char.toLower else rest

/- Lines in groups of neighbours whose keys are equal. -/
def groupsBy (key : Chars → Chars) : List Chars → List (List Chars)
  | [] => []
  | line :: rest =>
    match groupsBy key rest with
    | (other :: group) :: groups =>
      if key line == key other then (line :: other :: group) :: groups
      else [line] :: (other :: group) :: groups
    | groups => [line] :: groups

/- Leave out or count lines that are equal to the one before. -/
def uniq (world : World) (start : Start) : Ran :=
  withOptions "uniq" 1
    ⟨"cdDuiz", "fsw",
      [("count", 'c'), ("repeated", 'd'), ("all-repeated", 'D'),
        ("skip-fields", 'f'), ("ignore-case", 'i'), ("skip-chars", 's'),
        ("unique", 'u'), ("zero-terminated", 'z'), ("check-chars", 'w')]⟩
    world start fun options =>
      let number (letter : Char) (what : String) :
          Except String (Option Nat) :=
        match options.value? letter with
        | none => .ok none
        | some value =>
          match Numeral.natural? 10 value.toList with
          | some n => .ok (some n)
          | none =>
            .error (value ++ ": invalid number of " ++ what)
      let numbers := do
        let fields ← number 'f' "fields to skip"
        let chars ← number 's' "bytes to skip"
        let width? ← number 'w' "bytes to compare"
        .ok (fields.getD 0, chars.getD 0, width?)
      let fail (why : String) : Except String Ran :=
        .ok (Ran.complaining world 1 ("uniq: " ++ why))
      match numbers, options.words with
      | .error why, _ => fail why
      | .ok _, _ :: _ :: extra :: _ =>
        .error ("extra operand " ++ quoted extra)
      | .ok (fields, chars, width?), words =>
        if options.has 'c' && options.has 'D' then
          .error
            "printing all duplicated lines and repeat counts is meaningless"
        else
        let mark := if options.has 'z' then '\x00' else '\n'
        let input := words.take 1
        match (sources world start input).head? with
        | none => fail ""
        | some source =>
          match source.text with
          | .error .directory =>
            fail ("error reading " ++ quoted source.name
              ++ ": Is a directory")
          | .error (.closed why) => fail (source.name ++ ": " ++ why)
          | .ok text =>
            let groups :=
              groupsBy (uniqKey options fields chars width?)
                (linesBy mark text)
            let shown := groups.flatMap fun group =>
              let isRepeated := group.length > 1
              if options.has 'D' then if isRepeated then group else []
              else if options.has 'd' && !isRepeated then []
              else if options.has 'u' && isRepeated then []
              else
                (group.take 1).map fun line =>
                  if options.has 'c' then
                    padLeft 7 (digits group.length) ++ [' '] ++ line
                  else line
            let text := joinLines mark shown
            match words with
            | _ :: out :: _ =>
              if out == inputWord then
                .ok ((Report.new.print text).finish world (leftAfter? input))
              else
                match writeText world start.cwd out text with
                | .ok world =>
                  .ok (Report.new.finish world (leftAfter? input))
                | .error why => fail (out ++ ": " ++ why)
            | _ =>
              .ok ((Report.new.print text).finish world (leftAfter? input))

------------------------------------------------------------
-- Common Lines
------------------------------------------------------------

/- How two sorted texts are compared. -/
structure Merging where
  columns : List Nat
  between : Chars
  mark : Char
  /- Whether wrong order is an error, or is looked for at all. -/
  isStrict : Bool
  isLoose : Bool

/- Where a comparison of two sorted texts has come to. -/
structure Merged where
  report : Report
  counts : Nat × Nat × Nat
  seenAlone : Bool
  /- Of which texts it has been said that they are out of order. -/
  said : List Nat

namespace Merging

/- A line in its column. -/
def shown (merging : Merging) (column : Nat) (line : Chars) : Chars :=
  if merging.columns.contains column then
    (merging.columns.filter (· < column)).flatMap (fun _ => merging.between)
      ++ line ++ [merging.mark]
  else
    []

/- Say so if a line is out of order. -/
def checked (merging : Merging) (merged : Merged) (file : Nat)
    (last : Chars) (next? : Option Chars) : Merged × Bool :=
  match next? with
  | none => (merged, true)
  | some next =>
    if merging.isLoose || !(merging.isStrict || merged.seenAlone)
        || merged.said.contains file || !(next < last) then
      (merged, true)
    else
      let said := "comm: file " ++ toString file
        ++ " is not in sorted order"
      ({ merged with
          said := file :: merged.said
          report :=
            if merging.isStrict then merged.report.complain 1 said
            else merged.report.remark said },
        !merging.isStrict)

/- Compare two sorted lists of lines. -/
def run (merging : Merging) : Nat → Merged → List Chars → List Chars →
    Merged
  | 0, merged, _, _ => merged
  | fuel + 1, merged, a, b =>
    let print (merged : Merged) (column : Nat) (line : Chars) : Merged :=
      { merged with
        report := merged.report.print (merging.shown column line)
        counts :=
          if column == 1 then
            (merged.counts.1 + 1, merged.counts.2.1, merged.counts.2.2)
          else if column == 2 then
            (merged.counts.1, merged.counts.2.1 + 1, merged.counts.2.2)
          else (merged.counts.1, merged.counts.2.1, merged.counts.2.2 + 1)
        seenAlone := merged.seenAlone || column != 3 }
    let first (line : Chars) (a b : List Chars) : Merged :=
      let (merged, goesOn) :=
        merging.checked (print merged 1 line) 1 line a.head?
      if goesOn then run merging fuel merged a b else merged
    let second (line : Chars) (a b : List Chars) : Merged :=
      let (merged, goesOn) :=
        merging.checked (print merged 2 line) 2 line b.head?
      if goesOn then run merging fuel merged a b else merged
    match a, b with
    | [], [] => merged
    | line :: a, [] => first line a []
    | [], line :: b => second line [] b
    | x :: a, y :: b =>
      if x < y then first x a (y :: b)
      else if y < x then second y (x :: a) b
      else
        let (merged, goesOn) :=
          merging.checked (print merged 3 x) 1 x a.head?
        let (merged, goesOnToo) := merging.checked merged 2 y b.head?
        if goesOn && goesOnToo then run merging fuel merged a b else merged

end Merging

/- Compare two sorted texts line by line. -/
def comm (world : World) (start : Start) : Ran :=
  withOptions "comm" 1
    ⟨"123z\x01\x02\x03", "\x04",
      [("check-order", '\x01'), ("nocheck-order", '\x02'),
        ("total", '\x03'), ("output-delimiter", '\x04'),
        ("zero-terminated", 'z')]⟩
    world start fun options =>
      match options.words with
      | [] => .error "missing operand"
      | [word] => .error ("missing operand after " ++ quoted word)
      | _ :: _ :: extra :: _ => .error ("extra operand " ++ quoted extra)
      | words =>
        let all := sources world start words
        let mark := if options.has 'z' then '\x00' else '\n'
        match all.findSome? fun source =>
            match source.text with
            | .error unread => some (unreadText "comm" source.name unread)
            | .ok _ => none with
        | some why => .ok (Ran.complaining world 1 why)
        | none =>
          let lines := all.map fun source =>
            (source.text.toOption.map (linesBy mark)).getD []
          let a := lines.head?.getD []
          let b := (lines.drop 1).head?.getD []
          let columns := [(1, '1'), (2, '2'), (3, '3')].filterMap
            fun (n, letter) => if options.has letter then none else some n
          let between := (options.value? '\x04').map fun text =>
            if text.isEmpty then ['\x00'] else Octet.ofText text
          let merging : Merging :=
            { columns, mark
              between := between.getD ['\t']
              isStrict := options.last "\x01\x02" == some '\x01'
              isLoose := options.last "\x01\x02" == some '\x02' }
          let merged := merging.run (a.length + b.length + 1)
            ⟨.new, (0, 0, 0), false, []⟩ a b
          let between := merging.between
          let total := digits merged.counts.1 ++ between
            ++ digits merged.counts.2.1 ++ between
            ++ digits merged.counts.2.2 ++ between ++ "total".toList ++ [mark]
          let report := if options.has '\x03' then merged.report.print total
            else merged.report
          let report :=
            if merged.said.isEmpty || merging.isStrict then report
            else report.complain 1 "comm: input is not in sorted order"
          .ok (report.finish world (leftAfter? words))

end Tools

end Sandbox

end TreeLint
