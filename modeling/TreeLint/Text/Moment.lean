import TreeLint.Text.Lines
import TreeLint.Text.Numeral

/-
  Moments in time as texts tell them.

  Key definitions include:
    * `Moment`
    * `Moment.ofCompact?`
    * `Moment.ofText?`

  A moment is a number of seconds since the start of the year
  1970.  A text may give the digits of all its parts in one
  row, or a date and a time, or how far away from now it is.
-/

------------------------------------------------------------
-- Dates
------------------------------------------------------------

namespace TreeLint

/- Seconds since the start of the year 1970. -/
abbrev Moment := Int

namespace Moment

/- How many days a year before the given one all months but two took. -/
def daysBefore (year : Int) (month day : Nat) : Int :=
  let shifted := if month ≤ 2 then year - 1 else year
  let since := (month + 9) % 12
  365 * shifted + shifted / 4 - shifted / 100 + shifted / 400
    + Int.ofNat ((153 * since + 2) / 5) + Int.ofNat day

/- Whether a year has a day more. -/
def isLong (year : Int) : Bool :=
  (year % 4 == 0 && year % 100 != 0) || year % 400 == 0

/- How many days a month has. -/
def daysIn (year : Int) (month : Nat) : Nat :=
  if month == 2 then (if isLong year then 29 else 28)
  else if [4, 6, 9, 11].contains month then 30 else 31

/- A date with a time of the day. -/
structure Date where
  year : Int
  month : Nat
  day : Nat
  hour : Nat
  minute : Nat
  second : Nat

/- The moment of a date, if there is such a date. -/
def ofDate? (d : Date) : Option Moment :=
  if 1 ≤ d.month && d.month ≤ 12 && 1 ≤ d.day
      && d.day ≤ daysIn d.year d.month && d.hour < 24 && d.minute < 60
      && d.second ≤ 60 then
    some ((daysBefore d.year d.month d.day - daysBefore 1970 1 1) * 86400
      + Int.ofNat (d.hour * 3600 + d.minute * 60 + d.second))
  else none

/- The number of two digits. -/
def pairs? : List Char → Option (List Nat)
  | [] => some []
  | [_] => none
  | a :: b :: rest => do
    let n ← Numeral.natural? 10 [a, b]
    return n :: (← pairs? rest)

/- The year that two digits stand for. -/
def fullYear (n : Nat) : Int :=
  if n < 69 then 2000 + Int.ofNat n else 1900 + Int.ofNat n

/-
  The moment of digits for month, day, hour and minute, with
  those for the year in front and those for the second behind
  a point; the year is this one if it is not told.
-/
def ofCompact? (thisYear : Int) (text : String) : Option Moment := do
  let chars := text.toList
  let front := chars.takeWhile (· != '.')
  let second ← match chars.drop front.length with
    | [] => some 0
    | ['.', a, b] => Numeral.natural? 10 [a, b]
    | _ => none
  match ← pairs? front with
  | [month, day, hour, minute] =>
    ofDate? ⟨thisYear, month, day, hour, minute, second⟩
  | [year, month, day, hour, minute] =>
    ofDate? ⟨fullYear year, month, day, hour, minute, second⟩
  | [century, year, month, day, hour, minute] =>
    ofDate? ⟨Int.ofNat (century * 100 + year), month, day, hour, minute,
      second⟩
  | _ => none

------------------------------------------------------------
-- Words
------------------------------------------------------------

/- The numbers between separators. -/
def numbers? (separator : Char) (text : String) : Option (List Nat) :=
  (Text.splitAt separator text).mapM fun part =>
    if part.isEmpty then none else Numeral.natural? 10 part.toList

/- The seconds of a time of the day. -/
def clock? (text : String) : Option Nat :=
  let text := String.ofList (text.toList.takeWhile (· != '.'))
  match numbers? ':' text with
  | some [hour, minute] =>
    if hour < 24 && minute < 60 then some (hour * 3600 + minute * 60)
    else none
  | some [hour, minute, second] =>
    if hour < 24 && minute < 60 && second ≤ 60 then
      some (hour * 3600 + minute * 60 + second)
    else none
  | _ => none

/- The moment at which a day begins. -/
def day? (text : String) : Option Moment :=
  match numbers? '-' text, numbers? '/' text with
  | some [year, month, day], _ =>
    ofDate? ⟨Int.ofNat year, month, day, 0, 0, 0⟩
  | _, some [month, day, year] =>
    ofDate? ⟨Int.ofNat year, month, day, 0, 0, 0⟩
  | _, _ =>
    if text.length == 8 then
      match pairs? text.toList with
      | some [century, year, month, day] =>
        ofDate? ⟨Int.ofNat (century * 100 + year), month, day, 0, 0, 0⟩
      | _ => none
    else none

/- The seconds of a unit of time. -/
def unit? (word : String) : Option Nat :=
  let word := word.toLower
  let word := if word.endsWith "s" && 3 < word.length then
      String.ofList word.toList.dropLast
    else word
  [ ("second", 1), ("sec", 1), ("minute", 60), ("min", 60),
    ("hour", 3600), ("day", 86400), ("week", 604800),
    ("fortnight", 1209600), ("month", 2592000),
    ("year", 31536000) ].lookup word

/- The moment that words tell, some of them being dealt with. -/
def ofWords? (now : Moment) : Nat → Moment → List String → Option Moment
  | 0, _, _ => none
  | _ + 1, found, [] => some found
  | fuel + 1, found, word :: rest =>
    let small := word.toLower
    match numberOf? word, rest with
    | some n, unit :: rest =>
      match unit? unit, rest with
      | some seconds, "ago" :: rest =>
        ofWords? now fuel (found - n * Int.ofNat seconds) rest
      | some seconds, rest =>
        ofWords? now fuel (found + n * Int.ofNat seconds) rest
      | none, _ => other fuel found small (unit :: rest)
    | _, rest => other fuel found small rest
where
  /- A count of units. -/
  numberOf? (word : String) : Option Int :=
    match word.toLower with
    | "last" => some (-1)
    | "next" => some 1
    | "a" => some 1
    | "an" => some 1
    | _ => Numeral.signed? word.toList
  /- A word that stands for itself. -/
  other (fuel : Nat) (found : Moment) (word : String)
      (rest : List String) : Option Moment :=
    match word with
    | "now" => ofWords? now fuel found rest
    | "today" => ofWords? now fuel found rest
    | "yesterday" => ofWords? now fuel (found - 86400) rest
    | "tomorrow" => ofWords? now fuel (found + 86400) rest
    | "utc" => ofWords? now fuel found rest
    | "z" => ofWords? now fuel found rest
    | "gmt" => ofWords? now fuel found rest
    | "+0000" => ofWords? now fuel found rest
    | word =>
      match day? word, clock? word with
      | some start, _ => ofWords? now fuel start rest
      | none, some seconds =>
        ofWords? now fuel (found / 86400 * 86400 + Int.ofNat seconds) rest
      | none, none => none

/- The moment that a text tells, seen from now. -/
def ofText? (now : Moment) (text : String) : Option Moment :=
  let words := (Text.splitAt ' ' text).filter (fun word => !word.isEmpty)
  match words, text.toList with
  | _, '@' :: number =>
    Numeral.signed? (number.takeWhile (· != '.'))
  | [], _ => some (now / 86400 * 86400)
  | words, _ =>
    let isZone (c : Char) : Bool := c == 'Z' || c == 'z'
    let words := words.flatMap fun word =>
      let parts := Text.splitAt 'T' word
      match parts.map fun part => (day? part).isSome with
      | [true, _] =>
        parts.map fun part =>
          String.ofList (part.toList.filter (fun c => !isZone c))
      | _ => [word]
    ofWords? now (2 * words.length + 1) now words

end Moment

end TreeLint
