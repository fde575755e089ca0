import TreeLint.Text.Utf8

/-
  Texts that may hold single bytes outside UTF-8.

  Key definitions include:
    * `RawByte.ofByte`
    * `RawByte.decode`
    * `RawByte.encode`
    * `RawByte.hold`
    * `RawByte.precedes`
    * `RawByte.shown`
    * `RawByte.mended`
    * `RawByte.isText`

  A file name on disk is a list of bytes.  Where the bytes
  are not UTF-8, each byte of a fault is held as a code point
  of its own at the end of the last private-use plane.  A
  character that is such a code point itself is held byte by
  byte too, so every list of bytes has one text that holds it
  and every such text tells its bytes.
-/

------------------------------------------------------------
-- Bytes Held As Code Points
------------------------------------------------------------

namespace TreeLint

namespace RawByte

/- The code point of a byte is this far from the byte. -/
def base : Nat := 0x10FE00

/- The code point that stands for a byte of 0x80 or more. -/
def ofByte (b : UInt8) : Char :=
  Char.ofNat (base + b.toNat)

/- The byte that a code point stands for. -/
def byte? (c : Char) : Option UInt8 :=
  if base + 0x80 ≤ c.toNat && c.toNat < base + 0x100 then
    some (UInt8.ofNat (c.toNat - base))
  else
    none

/- The characters that hold one character of a plain text. -/
def holdChar (c : Char) : List Char :=
  match byte? c with
  | some _ => (Utf8.encode (String.singleton c)).map ofByte
  | none => [c]

/- Hold a plain text. -/
def hold (text : String) : String :=
  if text.toList.all (fun c => (byte? c).isNone) then
    text
  else
    String.ofList (text.toList.flatMap holdChar)

/- Hold a list of bytes as a text. -/
def decodeChars : List UInt8 → List Char
  | [] => []
  | b :: rest =>
    match (Utf8.takeChar b rest).1 with
    | some c => holdChar c ++ decodeChars (Utf8.takeChar b rest).2
    | none => ofByte b :: decodeChars rest
termination_by bytes => bytes.length
decreasing_by
  · have hLe := Utf8.takeChar_length_le b rest
    simp only [List.length_cons]
    omega
  · simp

def decode (bytes : List UInt8) : String :=
  String.ofList (decodeChars bytes)

/- The bytes that a text holds. -/
def encode (text : String) : List UInt8 :=
  text.toList.flatMap fun c =>
    match byte? c with
    | some b => [b]
    | none => Utf8.encode (String.singleton c)

/- Whether every character stands for itself. -/
def isPlain (text : String) : Bool :=
  text.toList.all fun c => (byte? c).isNone

/- Whether the bytes of a text come no later than those of another. -/
def precedes (a b : String) : Bool :=
  decide (encode a ≤ encode b)

/- What a reader sees: faults become replacement characters. -/
def shown (text : String) : String :=
  if isPlain text then text else Utf8.decodeLossy (encode text)

/- A text that holds what a reader sees of another. -/
def mended (text : String) : String :=
  hold (shown text)

/- Whether a text holds no byte outside UTF-8. -/
def isText (text : String) : Bool :=
  mended text == text

end RawByte

end TreeLint
