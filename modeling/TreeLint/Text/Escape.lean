import TreeLint.Text.Numeral
import TreeLint.Text.RawByte

/-
  Escapes inside quoted texts.

  Key definitions include:
    * `Escape.isTextChar`
    * `Escape.hexChar?`
    * `Escape.readChar?`
    * `Escape.cutQuote?`
    * `Escape.decode?`

  A backslash introduces one of seven short escapes or a code
  point in four or eight hexadecimal digits.  Control
  characters other than the tab may only be written escaped.
-/

------------------------------------------------------------
-- Single Characters
------------------------------------------------------------

namespace TreeLint

namespace Escape

/- Characters that may stand for themselves in a text. -/
def isTextChar (c : Char) : Bool :=
  c == '\t' || (0x20 ≤ c.toNat && c.toNat != 0x7F)

/- The character with a code point, unless it is a surrogate. -/
def charOfCode? (code : Nat) : Option Char :=
  if h : code.isValidChar then
    some (Char.ofNatAux code h)
  else
    none

/- A code point in exactly as many hexadecimal digits. -/
def hexChar? (digits : Nat) (text : List Char) : Option Char :=
  let number := text.take digits
  if number.length = digits then
    (Numeral.natural? 16 number).bind charOfCode?
  else
    none

/- The character of an escape of one letter. -/
def short? (c : Char) : Option Char :=
  if c == '"' then some '"'
  else if c == '\\' then some '\\'
  else if c == 'b' then some '\x08'
  else if c == 'f' then some '\x0c'
  else if c == 'n' then some '\n'
  else if c == 'r' then some '\r'
  else if c == 't' then some '\t'
  else none

/-
  Read an escape behind its backslash: the character and how
  many characters the escape takes.
-/
def readChar? : List Char → Option (Char × Nat)
  | 'u' :: rest => (hexChar? 4 rest).map (fun c => (c, 5))
  | 'U' :: rest => (hexChar? 8 rest).map (fun c => (c, 9))
  | c :: _ => (short? c).map (fun d => (d, 1))
  | [] => none

------------------------------------------------------------
-- Texts
------------------------------------------------------------

/-
  The text that is meant by what stands between the quotes.
  The number counts the characters still to be passed over,
  because they belong to an escape already read.
-/
def decodeFrom? : Nat → List Char → Option (List Char)
  | 0, [] => some []
  | _ + 1, [] => none
  | skip + 1, _ :: rest => decodeFrom? skip rest
  | 0, '\\' :: rest =>
    match readChar? rest with
    | some (c, taken) =>
      (decodeFrom? taken rest).map (RawByte.holdChar c ++ ·)
    | none => none
  | 0, c :: rest =>
    if isTextChar c then
      (decodeFrom? 0 rest).map (c :: ·)
    else
      none

/-
  What stands up to the closing quote, and what stands behind
  it.  A backslash takes the character behind it along.
-/
def cutQuote? : List Char → Option (List Char × List Char)
  | [] => none
  | '"' :: rest => some ([], rest)
  | ['\\'] => none
  | '\\' :: c :: rest =>
    (cutQuote? rest).map (fun (inner, behind) => ('\\' :: c :: inner, behind))
  | c :: rest =>
    (cutQuote? rest).map (fun (inner, behind) => (c :: inner, behind))

/- The text that is meant by what stands between the quotes. -/
def decode? (inner : List Char) : Option String :=
  (decodeFrom? 0 inner).map String.ofList

end Escape

end TreeLint
