import TreeLint.Text.RawByte

/-
  Bytes seen as characters.

  Key definitions include:
    * `Octet.decode`
    * `Octet.encode`
    * `Octet.ofText`
    * `Octet.toText`

  Programs that work on texts of any kind take every byte for
  one character.  The character has the number of the byte, so
  letters and digits are what they look like.
-/

------------------------------------------------------------
-- Characters For Bytes
------------------------------------------------------------

namespace TreeLint

namespace Octet

/- The character with the number of a byte. -/
def ofByte (b : UInt8) : Char :=
  Char.ofNat b.toNat

/- The characters with the numbers of bytes. -/
def decode (bytes : List UInt8) : List Char :=
  bytes.map ofByte

/- The bytes with the numbers of characters. -/
def encode (chars : List Char) : List UInt8 :=
  chars.map fun c => UInt8.ofNat c.toNat

/- The bytes that a text holds, as characters. -/
def ofText (text : String) : List Char :=
  decode (RawByte.encode text)

/- The text that holds the bytes. -/
def toText (chars : List Char) : String :=
  RawByte.decode (encode chars)

------------------------------------------------------------
-- Classes
------------------------------------------------------------

/- The letters and digits that every system knows. -/
def isAlphanumeric (c : Char) : Bool :=
  c.isAlphanum

/- The blanks that separate words. -/
def isSpace (c : Char) : Bool :=
  c == ' ' || (9 ≤ c.toNat && c.toNat ≤ 13)

/- A blank within a line. -/
def isBlank (c : Char) : Bool :=
  c == ' ' || c == '\t'

/- The same letter in the other size. -/
def swapCase (c : Char) : Char :=
  if c.isLower then c.toUpper else c.toLower

end Octet

end TreeLint
