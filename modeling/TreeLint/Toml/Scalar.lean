import TreeLint.Config.Value
import TreeLint.Text.Numeral

/-
  Booleans, numbers, dates and times of TOML.

  Key definitions include:
    * `Toml.plainDigits?`
    * `Toml.integer?`
    * `Toml.isReal`
    * `Toml.isMoment`
    * `Toml.momentText`
    * `Toml.scalar?`

  Every one of these is a run of a few characters, and its
  text alone tells what it is.  A date or a time has no place
  among configuration data; it is held as a table with one
  reserved key, so that it is never taken for a text.
-/

------------------------------------------------------------
-- Digits With Underscores
------------------------------------------------------------

namespace TreeLint

namespace Toml

/-
  Digits without the underscores between them.  Each
  underscore needs a digit on both sides.
-/
def plainDigits? (isDigit : Char → Bool) : List Char → Option (List Char)
  | [] => none
  | [c] => if isDigit c then some [c] else none
  | c :: '_' :: rest =>
    if isDigit c then
      (plainDigits? isDigit rest).map (c :: ·)
    else
      none
  | c :: rest =>
    if isDigit c then
      (plainDigits? isDigit rest).map (c :: ·)
    else
      none

/- Decimal digits of which a leading zero is the only one. -/
def wholeDigits? (text : List Char) : Option (List Char) :=
  match plainDigits? Numeral.isDigit text with
  | some ('0' :: _ :: _) => none
  | digits => digits

/- Digits of a base behind the letter for it. -/
def based? (base : Nat) (text : List Char) : Option Nat :=
  (plainDigits? (fun c => (Numeral.digit? base c).isSome) text).bind
    (Numeral.natural? base)

------------------------------------------------------------
-- Integers
------------------------------------------------------------

/- Integers have 64 bits. -/
def fits (n : Int) : Bool :=
  -9223372036854775808 ≤ n && n < 9223372036854775808

/- An integer before its size is looked at. -/
def unboundedInteger? : List Char → Option Int
  | '0' :: 'x' :: rest => (based? 16 rest).map Int.ofNat
  | '0' :: 'o' :: rest => (based? 8 rest).map Int.ofNat
  | '0' :: 'b' :: rest => (based? 2 rest).map Int.ofNat
  | '-' :: rest =>
    ((wholeDigits? rest).bind (Numeral.natural? 10)).map
      (fun n => -(Int.ofNat n))
  | text =>
    ((wholeDigits? (Numeral.dropSign text)).bind
      (Numeral.natural? 10)).map Int.ofNat

/- An integer. -/
def integer? (text : List Char) : Option Int :=
  (unboundedInteger? text).filter fits

------------------------------------------------------------
-- Other Numbers
------------------------------------------------------------

/- The characters of digits with underscores. -/
def isDigitOrBar (c : Char) : Bool :=
  Numeral.isDigit c || c == '_'

/- The exponent at the end of a number, zero if there is none. -/
def exponent? : List Char → Option Int
  | [] => some 0
  | c :: rest =>
    if c == 'e' || c == 'E' then
      match rest with
      | '-' :: digits =>
        ((plainDigits? Numeral.isDigit digits).bind
          (Numeral.natural? 10)).map (fun n => -(Int.ofNat n))
      | _ =>
        ((plainDigits? Numeral.isDigit (Numeral.dropSign rest)).bind
          (Numeral.natural? 10)).map Int.ofNat
    else
      none

/-
  The digits of a number and the power of ten to multiply
  them by, for a number with a point or an exponent.
-/
def decimal? (text : List Char) : Option (Nat × Int) := do
  let body := Numeral.dropSign text
  let whole ← wholeDigits? (body.takeWhile isDigitOrBar)
  match body.dropWhile isDigitOrBar with
  | [] => none
  | '.' :: rest =>
    let places ←
      plainDigits? Numeral.isDigit (rest.takeWhile isDigitOrBar)
    let exponent ← exponent? (rest.dropWhile isDigitOrBar)
    let digits ← Numeral.natural? 10 (whole ++ places)
    return (digits, exponent - places.length)
  | rest =>
    let exponent ← exponent? rest
    let digits ← Numeral.natural? 10 whole
    return (digits, exponent)

/-
  Numbers from here on are nearer to infinity than to any
  number of double precision.
-/
def overflowBound : Nat := Nat.pow 2 1024 - Nat.pow 2 970

/- Whether digits times a power of ten are out of range. -/
def overflows (digits : Nat) (exponent : Int) : Bool :=
  let size := Int.ofNat (Nat.toDigits 10 digits).length + exponent
  if digits == 0 || size < 300 then
    false
  else if size > 400 then
    true
  else if exponent < 0 then
    overflowBound * Nat.pow 10 exponent.natAbs ≤ digits
  else
    overflowBound ≤ digits * Nat.pow 10 exponent.natAbs

/- A number that is not an integer, or is not written as one. -/
def isReal (text : List Char) : Bool :=
  let body := String.ofList (Numeral.dropSign text)
  if body == "inf" || body == "nan" then
    true
  else
    match decimal? text with
    | some (digits, exponent) =>
      text.head? == some '-' || !overflows digits exponent
    | none => false

------------------------------------------------------------
-- Dates And Times
------------------------------------------------------------

/- A number of exactly so many digits within bounds. -/
def bounded (digits low high : Nat) (text : List Char) : Bool :=
  text.length == digits
    && text.all Numeral.isDigit
    && match Numeral.natural? 10 text with
      | some n => low ≤ n && n ≤ high
      | none => false

/- The number of days of a month. -/
def daysOf (year month : Nat) : Nat :=
  if month == 2 then
    let leap := (year % 4 == 0 && year % 100 != 0) || year % 400 == 0
    if leap then 29 else 28
  else if [4, 6, 9, 11].contains month then 30
  else 31

/- A calendar date. -/
def isDate (text : List Char) : Bool :=
  match text with
  | [y1, y2, y3, y4, '-', m1, m2, '-', d1, d2] =>
    match Numeral.natural? 10 [y1, y2, y3, y4],
        Numeral.natural? 10 [m1, m2] with
    | some year, some month =>
      bounded 2 1 12 [m1, m2]
        && bounded 2 1 (daysOf year month) [d1, d2]
    | _, _ => false
  | _ => false

/- Parts of a second, or nothing. -/
def isSecondPart : List Char → Bool
  | [] => true
  | '.' :: digits => !digits.isEmpty && digits.all Numeral.isDigit
  | _ => false

/- A time of day. -/
def isTime (text : List Char) : Bool :=
  match text with
  | h1 :: h2 :: ':' :: m1 :: m2 :: ':' :: s1 :: s2 :: rest =>
    bounded 2 0 23 [h1, h2]
      && bounded 2 0 59 [m1, m2]
      && bounded 2 0 60 [s1, s2]
      && isSecondPart rest
  | _ => false

/- A time of day with an offset from universal time. -/
def isTimeWithOffset (text : List Char) : Bool :=
  match text.reverse with
  | 'Z' :: time => isTime time.reverse
  | 'z' :: time => isTime time.reverse
  | m2 :: m1 :: ':' :: h2 :: h1 :: sign :: time =>
    (sign == '+' || sign == '-')
      && bounded 2 0 23 [h1, h2]
      && bounded 2 0 59 [m1, m2]
      && isTime time.reverse
  | _ => false

/- A date, a time of day, or both. -/
def isMoment (text : List Char) : Bool :=
  isDate text
    || isTime text
    || (isDate (text.take 10)
      && match text.drop 10 with
        | mark :: time =>
          (mark == 'T' || mark == 't' || mark == ' ')
            && (isTime time || isTimeWithOffset time)
        | [] => false)

/- The reserved key under which a date or a time is held. -/
def momentKey : String := "$__toml_private_datetime"

/- How many places of a second are kept. -/
def secondPlaces : Nat := 9

/- Parts of a second in the customary writing. -/
def secondPartText : List Char → List Char
  | '.' :: digits =>
    match ((digits.take secondPlaces).reverse.dropWhile (· == '0')).reverse
    with
    | [] => []
    | places => '.' :: places
  | _ => []

/- An offset from universal time in the customary writing. -/
def offsetText : List Char → List Char
  | [] => []
  | 'z' :: _ => ['Z']
  | 'Z' :: _ => ['Z']
  | ['-', '0', '0', ':', '0', '0'] => "+00:00".toList
  | offset => offset

/- A time of day, with or without an offset, in that writing. -/
def timeText (text : List Char) : List Char :=
  let part := (text.drop 8).takeWhile
    (fun c => c == '.' || Numeral.isDigit c)
  text.take 8 ++ secondPartText part
    ++ offsetText (text.drop (8 + part.length))

/-
  A date or a time in the customary writing: a capital letter
  between the two, no idle zeros in parts of a second.
-/
def momentText (text : List Char) : List Char :=
  if isDate (text.take 10) then
    match text.drop 10 with
    | _ :: time => text.take 10 ++ 'T' :: timeText time
    | [] => text
  else
    timeText text

------------------------------------------------------------
-- Scalars
------------------------------------------------------------

/- What a run of characters means. -/
def scalar? (text : List Char) : Option Value :=
  let written := String.ofList text
  if written == "true" then some (.boolean true)
  else if written == "false" then some (.boolean false)
  else if isMoment text then
    some (.table [(momentKey, .text (String.ofList (momentText text)))])
  else
    match integer? text with
    | some n => some (.integer n)
    | none => if isReal text then some (.real written) else none

/- The characters of such a run. -/
def isScalarChar (c : Char) : Bool :=
  c.isAlphanum || c == '_' || c == '+' || c == '-' || c == '.' || c == ':'

/-
  Cut the run off the front.  A blank inside belongs to it
  only between a date and a time.
-/
def cutScalar (text : List Char) : List Char × List Char :=
  let run := text.takeWhile isScalarChar
  match text.dropWhile isScalarChar with
  | ' ' :: c :: rest =>
    if isDate run && Numeral.isDigit c then
      (run ++ ' ' :: (c :: rest).takeWhile isScalarChar,
        (c :: rest).dropWhile isScalarChar)
    else
      (run, ' ' :: c :: rest)
  | rest => (run, rest)

end Toml

end TreeLint
