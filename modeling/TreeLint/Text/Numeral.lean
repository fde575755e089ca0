/-
  Numbers written with digits.

  Key definitions include:
    * `Numeral.digit?`
    * `Numeral.natural?`
    * `Numeral.signed?`
    * `Numeral.hasFraction`

  A numeral is a list of characters.  `natural?` reads digits
  of any base up to 36, `signed?` reads a decimal integer
  with an optional sign in front, and `hasFraction` tells
  whether a text is a decimal number with a point.
-/

------------------------------------------------------------
-- Digits
------------------------------------------------------------

namespace TreeLint

namespace Numeral

/- The value of a digit below a base. -/
def digit? (base : Nat) (c : Char) : Option Nat :=
  let n := c.toNat
  let value :=
    if 0x30 ≤ n && n ≤ 0x39 then n - 0x30
    else if 0x41 ≤ n && n ≤ 0x5A then n - 0x41 + 10
    else if 0x61 ≤ n && n ≤ 0x7A then n - 0x61 + 10
    else base
  if value < base then some value else none

/- The characters 0 to 9. -/
def isDigit (c : Char) : Bool :=
  (digit? 10 c).isSome

/- The value of digits behind a value already read. -/
def naturalFrom? (base : Nat) : Nat → List Char → Option Nat
  | value, [] => some value
  | value, c :: rest =>
    match digit? base c with
    | some d => naturalFrom? base (value * base + d) rest
    | none => none

/- The value of a text of one digit or more. -/
def natural? (base : Nat) : List Char → Option Nat
  | [] => none
  | digits => naturalFrom? base 0 digits

/- A decimal integer with an optional sign. -/
def signed? : List Char → Option Int
  | '+' :: digits => (natural? 10 digits).map Int.ofNat
  | '-' :: digits => (natural? 10 digits).map (fun n => -(Int.ofNat n))
  | digits => (natural? 10 digits).map Int.ofNat

------------------------------------------------------------
-- Fractions
------------------------------------------------------------

/- Drop a sign in front. -/
def dropSign : List Char → List Char
  | '+' :: rest => rest
  | '-' :: rest => rest
  | text => text

/- An exponent, or nothing at all. -/
def isExponent : List Char → Bool
  | [] => true
  | c :: rest =>
    (c == 'e' || c == 'E')
      && !(dropSign rest).isEmpty
      && (dropSign rest).all isDigit

/-
  A decimal number with a point: digits on at least one side
  of it, perhaps a sign in front and an exponent behind.
-/
def hasFraction (text : List Char) : Bool :=
  let body := dropSign text
  let whole := body.takeWhile isDigit
  match body.dropWhile isDigit with
  | '.' :: rest =>
    !(whole.isEmpty && (rest.takeWhile isDigit).isEmpty)
      && isExponent (rest.dropWhile isDigit)
  | _ => false

end Numeral

end TreeLint
