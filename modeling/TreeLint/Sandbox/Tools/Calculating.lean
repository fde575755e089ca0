import TreeLint.Sandbox.Tools.Inputs
import TreeLint.Text.Numeral
import TreeLint.Text.Regex.Reading

/-
  Programs that work out values.

  Key definitions include:
    * `Tools.Expression`
    * `Tools.expr`
    * `Tools.Decimal`
    * `Tools.seq`

  An expression is given as words.  Its value is a text, which
  is a number where it looks like one.
-/

------------------------------------------------------------
-- Values
------------------------------------------------------------

namespace TreeLint

namespace Sandbox

namespace Tools

namespace Expression

/- Why an expression has no value. -/
inductive Fault where
  /- The words make no expression. -/
  | form (why : String)
  | value (why : String)
deriving DecidableEq, Repr

/- The wording of a fault. -/
def Fault.message : Fault → String
  | form why => "syntax error: " ++ why
  | value why => why

/- The words that are left, and the last one that was taken. -/
structure Words where
  rest : List String
  last : String

/- A value, and the words behind it. -/
abbrev Result : Type := Except Fault (Chars × Words)

/- The number that a text looks like. -/
def integer? (text : Chars) : Option Int :=
  match text with
  | '-' :: digits => (Numeral.natural? 10 digits).map fun n => -(Int.ofNat n)
  | digits => (Numeral.natural? 10 digits).map Int.ofNat

/- The text of a number. -/
def ofInteger (n : Int) : Chars :=
  (toString n).toList

/- Whether a value counts as nothing: it is empty or zero. -/
def isNothing (text : Chars) : Bool :=
  match text with
  | [] => true
  | '-' :: digits => !digits.isEmpty && digits.all (· == '0')
  | digits => digits.all (· == '0')

/- The number of a value. -/
def number (text : Chars) : Except Fault Int :=
  match integer? text with
  | some n => .ok n
  | none => .error (.value "non-integer argument")

/- Compare two values. -/
def compareValues (operator : String) (a b : Chars) : Bool :=
  let order := match integer? a, integer? b with
    | some m, some n => compare m n
    | _, _ => compare a b
  match operator with
  | "<" => order == .lt
  | "<=" => order != .gt
  | "=" => order == .eq
  | "==" => order == .eq
  | "!=" => order != .eq
  | ">=" => order != .lt
  | _ => order == .gt

/- What a pattern matches at the start of a value. -/
def matched (text pattern : Chars) : Except Fault Chars :=
  match Regex.read ⟨false, false⟩ pattern with
  | .error fault => .error (.value fault.message)
  | .ok re =>
    let s : Regex.Subject := ⟨text.toArray, false, false⟩
    match (re.matchesAt s 0).head? with
    | some found =>
      .ok (if re.groups == 0 then digits found.stop else found.text s 1)
    | none => .ok (if re.groups == 0 then ['0'] else [])

/- A part of a value. -/
def part (text from' count : Chars) : Chars :=
  match integer? from', integer? count with
  | some from', some count =>
    if from' ≤ 0 || count ≤ 0 then []
    else (text.drop (from'.toNat - 1)).take count.toNat
  | _, _ => []

/- The first position of one of some characters in a value. -/
def position (text chars : Chars) : Nat :=
  match text.findIdx? chars.contains with
  | some i => i + 1
  | none => 0

/- Operators of one level, from the loosest to the tightest. -/
def levels : List (List String) :=
  [ ["|"], ["&"], ["<", "<=", "=", "==", "!=", ">=", ">"],
    ["+", "-"], ["*", "/", "%"], [":"] ]

/- The value of an operator between two values. -/
def combine (operator : String) (a b : Chars) : Except Fault Chars :=
  let truth (b : Bool) : Chars := if b then ['1'] else ['0']
  match operator with
  | "|" =>
    .ok (if !isNothing a then a else if !isNothing b then b else ['0'])
  | "&" => .ok (if isNothing a || isNothing b then ['0'] else a)
  | "+" => do
    let m ← number a
    let n ← number b
    .ok (ofInteger (m + n))
  | "-" => do
    let m ← number a
    let n ← number b
    .ok (ofInteger (m - n))
  | "*" => do
    let m ← number a
    let n ← number b
    .ok (ofInteger (m * n))
  | "/" => do
    let m ← number a
    let n ← number b
    if n == 0 then .error (.value "division by zero")
    else .ok (ofInteger (m.tdiv n))
  | "%" => do
    let m ← number a
    let n ← number b
    if n == 0 then .error (.value "division by zero")
    else .ok (ofInteger (m.tmod n))
  | ":" => matched a b
  | operator => .ok (truth (compareValues operator a b))

/- Whether the second value of an operator is worked out at all. -/
def needsSecond (operator : String) (a : Chars) : Bool :=
  match operator with
  | "|" => isNothing a
  | "&" => !isNothing a
  | _ => true

------------------------------------------------------------
-- Reading
------------------------------------------------------------

/- There should be one more word. -/
def missing (words : Words) : Fault :=
  .form ("missing argument after " ++ quoted words.last)

mutual

/- The value of operators of some levels. -/
def level : Nat → List (List String) → Bool → Words → Result
  | 0, _, _, words => .error (missing words)
  | fuel + 1, [], isLive, words => single fuel isLive words
  | fuel + 1, operators :: tighter, isLive, words => do
    let (a, words) ← level fuel tighter isLive words
    further fuel operators tighter isLive a words

/- The value of further operators behind a value. -/
def further : Nat → List String → List (List String) → Bool → Chars →
    Words → Result
  | 0, _, _, _, a, words => .ok (a, words)
  | fuel + 1, operators, tighter, isLive, a, words =>
    match words.rest with
    | word :: rest =>
      if operators.contains word then do
        let (b, words) ← level fuel tighter
          (isLive && needsSecond word a) ⟨rest, word⟩
        let value ←
          if isLive || word == "|" || word == "&" then combine word a b
          else .ok a
        further fuel operators tighter isLive value words
      else
        .ok (a, words)
    | [] => .ok (a, words)

/- The value of a word, of a function or of what is in parentheses. -/
def single : Nat → Bool → Words → Result
  | 0, _, words => .error (missing words)
  | fuel + 1, isLive, words =>
    match words.rest with
    | [] => .error (missing words)
    | "+" :: [] => .error (missing ⟨[], "+"⟩)
    | "+" :: word :: rest => .ok (Octet.ofText word, ⟨rest, word⟩)
    | "length" :: rest => do
      let (a, words) ← single fuel isLive ⟨rest, "length"⟩
      .ok (digits a.length, words)
    | "match" :: rest => do
      let (a, words) ← single fuel isLive ⟨rest, "match"⟩
      let (b, words) ← single fuel isLive words
      .ok (← if isLive then matched a b else .ok a, words)
    | "index" :: rest => do
      let (a, words) ← single fuel isLive ⟨rest, "index"⟩
      let (b, words) ← single fuel isLive words
      .ok (digits (position a b), words)
    | "substr" :: rest => do
      let (a, words) ← single fuel isLive ⟨rest, "substr"⟩
      let (b, words) ← single fuel isLive words
      let (c, words) ← single fuel isLive words
      .ok (part a b c, words)
    | "(" :: rest => do
      let (a, words) ← level fuel levels isLive ⟨rest, "("⟩
      match words.rest with
      | [] =>
        .error (.form ("expecting ')' after " ++ quoted words.last))
      | ")" :: rest => .ok (a, ⟨rest, ")"⟩)
      | word :: _ =>
        .error (.form ("expecting ')' instead of " ++ quoted word))
    | ")" :: _ => .error (.form "unexpected ')'")
    | word :: rest => .ok (Octet.ofText word, ⟨rest, word⟩)

end

/- The value of an expression. -/
def evaluate (words : List String) : Except Fault Chars := do
  let (value, words) ←
    level (16 * words.length + 32) levels true ⟨words, "expr"⟩
  match words.rest with
  | [] => .ok value
  | word :: _ => .error (.form ("unexpected argument " ++ quoted word))

end Expression

/- Print the value of an expression. -/
def expr (world : World) (start : Start) : Ran :=
  let words := match start.args with
    | "--" :: rest => rest
    | args => args
  match words with
  | [] =>
    Ran.complaining world 2 ("expr: missing operand\n"
      ++ "Try 'expr --help' for more information.")
  | words =>
    match Expression.evaluate words with
    | .ok value =>
      ({ Report.new.print (value ++ ['\n']) with
        status := if Expression.isNothing value then 1 else 0 }).finish
          world none
    | .error fault =>
      Ran.complaining world 2 ("expr: " ++ fault.message)

------------------------------------------------------------
-- Decimals
------------------------------------------------------------

/- A decimal number: an integer and how many of its digits are behind the point. -/
structure Decimal where
  mantissa : Int
  places : Nat
deriving DecidableEq, Repr

namespace Decimal

/- Read a decimal number, perhaps with a power of ten. -/
def read? (text : Chars) : Option Decimal :=
  let (isNegative, text) := match text with
    | '-' :: rest => (true, rest)
    | '+' :: rest => (false, rest)
    | text => (false, text)
  let whole := text.takeWhile Numeral.isDigit
  let (fraction, rest) := match text.drop whole.length with
    | '.' :: rest => rest.span Numeral.isDigit
    | rest => ([], rest)
  let power? : Option Int := match rest with
    | [] => some 0
    | e :: power =>
      if e == 'e' || e == 'E' then Numeral.signed? power else none
  match power?, whole ++ fraction with
  | none, _ => none
  | _, [] => none
  | some power, all =>
    (Numeral.natural? 10 all).map fun n =>
      let places : Int := Int.ofNat fraction.length - power
      let n : Int := if isNegative then -(Int.ofNat n) else Int.ofNat n
      if places < 0 then ⟨n * Int.pow 10 (min (-places).toNat 400), 0⟩
      else ⟨n, min places.toNat 400⟩

/- The integer that the number is when so many digits are behind the point. -/
def scaled (decimal : Decimal) (places : Nat) : Int :=
  decimal.mantissa * Int.pow 10 (places - decimal.places)

/- The text of an integer with so many digits behind the point. -/
def text (n : Int) (places : Nat) : Chars :=
  let all := digits n.natAbs
  let all := List.replicate (places + 1 - all.length) '0' ++ all
  let whole := all.take (all.length - places)
  (if n < 0 then ['-'] else [])
    ++ (if places == 0 then whole
      else whole ++ ['.'] ++ all.drop (all.length - places))

end Decimal

/- A place for a number in a format. -/
structure NumberForm where
  before : Chars
  flags : Chars
  width : Nat
  precision? : Option Nat
  letter : Char
  after : Chars

namespace NumberForm

/- The plain characters at the start of a format, and what follows. -/
def plain : Chars → Chars × Chars
  | '%' :: '%' :: rest =>
    let (text, rest) := plain rest
    ('%' :: text, rest)
  | '%' :: rest => ([], '%' :: rest)
  | c :: rest =>
    let (text, rest) := plain rest
    (c :: text, rest)
  | [] => ([], [])

/- Read a format. -/
def read (format : String) : Except String NumberForm :=
  let complaint (why : String) : Except String NumberForm :=
    .error ("format " ++ quoted format ++ " " ++ why)
  match plain (Octet.ofText format) with
  | (before, '%' :: rest) =>
    let flags := rest.takeWhile ("-+#0 '".toList.contains ·)
    let rest := rest.drop flags.length
    let width := rest.takeWhile Numeral.isDigit
    let rest := rest.drop width.length
    let (precision?, rest) := match rest with
      | '.' :: rest =>
        let number := rest.takeWhile Numeral.isDigit
        (some ((Numeral.natural? 10 number).getD 0), rest.drop number.length)
      | rest => (none, rest)
    match rest with
    | [] => complaint "ends in %"
    | letter :: rest =>
      if !("aAeEfFgG".toList.contains letter) then
        complaint ("has unknown %" ++ String.singleton letter ++ " directive")
      else
        match plain rest with
        | (after, []) =>
          .ok ⟨before, flags, (Numeral.natural? 10 width).getD 0,
            precision?, letter, after⟩
        | _ => complaint "has too many % directives"
  | _ => complaint "has no % directive"

/- The format that an option gives, if there is one. -/
def ofOption : Option String → Except String (Option NumberForm)
  | none => .ok none
  | some format => (read format).map some

/- An integer without its last digits, rounded to the nearest even. -/
def rounded (n : Int) (drop : Nat) : Int :=
  let unit := Nat.pow 10 drop
  let q := n.natAbs / unit
  let r := n.natAbs % unit
  let q := if 2 * r > unit || (2 * r == unit && q % 2 == 1) then q + 1 else q
  if n < 0 then -(Int.ofNat q) else Int.ofNat q

/- The text without zeros behind the point. -/
def trimmed (text : Chars) : Chars :=
  if text.contains '.' then
    ((text.reverse.dropWhile (· == '0')).dropWhile (· == '.')).reverse
  else
    text

/- A number in the format. -/
def shown (form : NumberForm) (n : Int) (places : Nat) : Chars :=
  let fixed (precision : Nat) : Chars :=
    if precision < places then
      Decimal.text (rounded n (places - precision)) precision
    else
      Decimal.text (n * Int.pow 10 (precision - places)) precision
  let size := (digits n.natAbs).length
  let text := match form.letter with
    | 'f' => fixed (form.precision?.getD 6)
    | 'F' => fixed (form.precision?.getD 6)
    | _ =>
      let precision := max 1 (form.precision?.getD 6)
      let whole := if size > places then size - places else 0
      trimmed (fixed (precision - min whole precision))
  let text := if form.flags.contains '+' && n ≥ 0 then '+' :: text else text
  let text := if form.flags.contains '-' then padRight form.width text
    else if form.flags.contains '0' then
      let sign := text.takeWhile (fun c => c == '-' || c == '+')
      sign ++ List.replicate (form.width - text.length) '0'
        ++ text.drop sign.length
    else padLeft form.width text
  form.before ++ text ++ form.after

end NumberForm

/- Whether a word is a number with a sign in front, and no option. -/
def isNegativeNumber (word : String) : Bool :=
  match word.toList with
  | '-' :: c :: _ => c == '.' || Numeral.isDigit c
  | _ => false

/- The words of the program that counts, its options apart. -/
def seqArguments : List String → List String
  | [] => []
  | word :: rest =>
    if isNegativeNumber word then "--" :: word :: rest
    else if word == "-s" || word == "-f" then
      match rest with
      | value :: rest => word :: value :: seqArguments rest
      | [] => [word]
    else if word.startsWith "-" then word :: seqArguments rest
    else "--" :: word :: rest

/- Print the numbers from one to another. -/
def seq (world : World) (start : Start) : Ran :=
  withOptions "seq" 1
    ⟨"w", "fs",
      [("equal-width", 'w'), ("format", 'f'), ("separator", 's')]⟩
    world { start with args := seqArguments start.args } fun options => do
      let words := options.words
      match words, words[3]? with
      | [], _ => .error "missing operand"
      | _, some extra => .error ("extra operand " ++ quoted extra)
      | words, none =>
        let numbers ← words.mapM fun word =>
          match Decimal.read? (Octet.ofText word) with
          | some n => .ok n
          | none =>
            .error ("invalid floating point argument: " ++ quoted word)
        let one : Decimal := ⟨1, 0⟩
        let (first, step, last) := match numbers with
          | [last] => (one, one, last)
          | [first, last] => (first, one, last)
          | [first, step, last] => (first, step, last)
          | _ => (one, one, one)
        if step.mantissa == 0 then
          .error ("invalid Zero increment value: "
            ++ quoted (words[1]?.getD ""))
        else
          let places := max first.places (max step.places last.places)
          let low := first.scaled places
          let by' := step.scaled places
          let high := last.scaled places
          let count :=
            if (by' > 0 && high < low) || (by' < 0 && high > low) then 0
            else ((high - low).tdiv by').toNat + 1
          let shownPlaces := max first.places step.places
          let values := (List.range count).map fun i =>
            low + by' * Int.ofNat i
          let plain (n : Int) : Chars :=
            Decimal.text (n.tdiv (Int.pow 10 (places - shownPlaces)))
              shownPlaces
          let form? := NumberForm.ofOption (options.value? 'f')
          match form? with
          | .error why => return Ran.complaining world 1 ("seq: " ++ why)
          | .ok form? =>
            let texts := match form? with
              | some form => values.map (form.shown · places)
              | none => values.map plain
            let width := if options.has 'w' then
                max (plain low).length (plain high).length
              else 0
            let texts := texts.map fun text =>
              let sign := text.takeWhile (· == '-')
              sign ++ List.replicate (width - text.length) '0'
                ++ text.drop sign.length
            let between :=
              ((options.value? 's').map Octet.ofText).getD ['\n']
            let all := joinWith between texts
            .ok ((Report.new.print
              (if texts.isEmpty then [] else all ++ ['\n'])).finish world none)

/- The prime factors of a number, ascending. -/
def factorsFrom : Nat → Nat → Nat → List Nat
  | 0, _, n => [n]
  | fuel + 1, p, n =>
    if n ≤ 1 then []
    else if p * p > n then [n]
    else if n % p == 0 then p :: factorsFrom fuel p (n / p)
    else factorsFrom fuel (if p == 2 then 3 else p + 2) n

/- How many steps are taken to find factors. -/
def factorLimit : Nat := 1000000

/- Print the prime factors of numbers. -/
def factor (world : World) (start : Start) : Ran :=
  withOptions "factor" 1 ⟨"h", "", [("exponents", 'h')]⟩ world start
    fun options =>
      let words := if options.words.isEmpty then
          (wordsOf (Octet.decode start.stdin)).map Octet.toText
        else options.words
      let report := words.foldl
        (fun (report : Report) word =>
          match Numeral.natural? 10 word.toList with
          | some n =>
            report.print (digits n ++ [':']
              ++ (factorsFrom factorLimit 2 n).flatMap
                (fun p => ' ' :: digits p)
              ++ ['\n'])
          | none =>
            report.complain 1
              ("factor: " ++ quoted word
                ++ " is not a valid positive integer"))
        .new
      .ok (report.finish world
        (if options.words.isEmpty then some [] else none))

end Tools

end Sandbox

end TreeLint
