import TreeLint.Text.Utf8

/-
  Ways to write characters as bytes.

  Key definitions include:
    * `Charset`
    * `Charset.ofName?`
    * `Charset.read?`
    * `Charset.write?`

  Besides UTF-8 there are ways that give every character units
  of two or four bytes, in one of two orders, and ways that
  give every character one byte and know few characters.  A
  mark at the start of a text may tell the order of bytes.
-/

------------------------------------------------------------
-- Charsets
------------------------------------------------------------

namespace TreeLint

/- In which order the bytes of a unit come. -/
inductive ByteOrder where
  | bigFirst
  | littleFirst
  /- A mark tells; without one the big end is little. -/
  | marked
deriving DecidableEq, Repr

/- A way to write characters as bytes. -/
inductive Charset where
  | utf8
  | utf16 (order : ByteOrder)
  | utf32 (order : ByteOrder)
  /- One byte for a character below a limit. -/
  | single (limit : Nat)
deriving DecidableEq, Repr

namespace Charset

/- The charsets, by their names in small letters. -/
def table : List (String × Charset) :=
  [ ("utf-8", utf8), ("utf8", utf8),
    ("utf-16", utf16 .marked), ("utf16", utf16 .marked),
    ("utf-16be", utf16 .bigFirst), ("utf16be", utf16 .bigFirst),
    ("utf-16le", utf16 .littleFirst), ("utf16le", utf16 .littleFirst),
    ("utf-32", utf32 .marked), ("utf32", utf32 .marked),
    ("utf-32be", utf32 .bigFirst), ("utf32be", utf32 .bigFirst),
    ("utf-32le", utf32 .littleFirst), ("utf32le", utf32 .littleFirst),
    ("iso-8859-1", single 256), ("iso8859-1", single 256),
    ("iso_8859-1", single 256), ("iso88591", single 256),
    ("8859_1", single 256), ("latin1", single 256),
    ("latin-1", single 256), ("l1", single 256), ("cp819", single 256),
    ("ascii", single 128), ("us-ascii", single 128),
    ("us", single 128), ("ansi_x3.4-1968", single 128),
    ("646", single 128), ("cp367", single 128) ]

/- The charset of a name. -/
def ofName? (name : String) : Option Charset :=
  table.lookup name.toLower

/- The mark that tells the order of bytes. -/
def markCode : Nat := 0xFEFF

------------------------------------------------------------
-- Reading
------------------------------------------------------------

/- Numbers of two bytes each; a byte too many is a fault. -/
def pairs? (isLittle : Bool) : List UInt8 → Option (List Nat)
  | [] => some []
  | [_] => none
  | a :: b :: rest =>
    let n := if isLittle then b.toNat * 256 + a.toNat
      else a.toNat * 256 + b.toNat
    (pairs? isLittle rest).map (n :: ·)

/- Numbers of four bytes each. -/
def quads? (isLittle : Bool) (bytes : List UInt8) : Option (List Nat) :=
  (pairs? isLittle bytes).bind joined?
where
  joined? : List Nat → Option (List Nat)
    | [] => some []
    | [_] => none
    | a :: b :: rest =>
      let n := if isLittle then b * 65536 + a else a * 65536 + b
      (joined? rest).map (n :: ·)

/- Whether a number is no character because it is half of one. -/
def isHalf (n : Nat) : Bool :=
  0xD800 ≤ n && n < 0xE000

/- The character of a number, if it has one. -/
def char? (n : Nat) : Option Char :=
  if isHalf n || 0x110000 ≤ n then none else some (Char.ofNat n)

/- Characters of units of two bytes, some of which belong together. -/
def ofUnits? : List Nat → Option (List Char)
  | [] => some []
  | [n] => (char? n).map ([·])
  | high :: low :: rest =>
    if isHalf high then
      if high < 0xDC00 && 0xDC00 ≤ low && low < 0xE000 then
        (ofUnits? rest).map
          (Char.ofNat (0x10000 + (high - 0xD800) * 1024 + (low - 0xDC00))
            :: ·)
      else none
    else
      (ofUnits? (low :: rest)).map (Char.ofNat high :: ·)

/- Whether the little end comes first, and the bytes behind a mark. -/
def ordered (order : ByteOrder) (bytes bigMark : List UInt8) :
    Bool × List UInt8 :=
  match order with
  | .bigFirst => (false, bytes)
  | .littleFirst => (true, bytes)
  | .marked =>
    if bigMark.isPrefixOf bytes then (false, bytes.drop bigMark.length)
    else if bigMark.reverse.isPrefixOf bytes then
      (true, bytes.drop bigMark.length)
    else (true, bytes)

/- The characters of bytes, if the bytes are without fault. -/
def read? (charset : Charset) (bytes : List UInt8) : Option (List Char) :=
  match charset with
  | .utf8 => (Utf8.decode? bytes).map String.toList
  | .utf16 order =>
    let (isLittle, bytes) := ordered order bytes [0xFE, 0xFF]
    (pairs? isLittle bytes).bind ofUnits?
  | .utf32 order =>
    let (isLittle, bytes) := ordered order bytes [0, 0, 0xFE, 0xFF]
    (quads? isLittle bytes).bind (fun codes => codes.mapM char?)
  | .single limit =>
    bytes.mapM fun b =>
      if b.toNat < limit then some (Char.ofNat b.toNat) else none

------------------------------------------------------------
-- Writing
------------------------------------------------------------

/- A number as some bytes, the little end first. -/
def littleBytes : Nat → Nat → List UInt8
  | 0, _ => []
  | count + 1, n => UInt8.ofNat (n % 256) :: littleBytes count (n / 256)

/- A number as some bytes in an order. -/
def unit (order : ByteOrder) (count n : Nat) : List UInt8 :=
  let bytes := littleBytes count n
  if order == .bigFirst then bytes.reverse else bytes

/- The units of two bytes of a character. -/
def unitsOf (c : Char) : List Nat :=
  if c.toNat < 0x10000 then [c.toNat]
  else
    let rest := c.toNat - 0x10000
    [0xD800 + rest / 1024, 0xDC00 + rest % 1024]

/- The mark at the start of bytes, where one is needed. -/
def start (order : ByteOrder) (count : Nat) : List UInt8 :=
  if order == .marked then unit order count markCode else []

/- The bytes of characters, if all of them can be written. -/
def write? (charset : Charset) (chars : List Char) :
    Option (List UInt8) :=
  match charset with
  | .utf8 => some (Utf8.encode (String.ofList chars))
  | .utf16 order =>
    some (start order 2
      ++ chars.flatMap fun c => (unitsOf c).flatMap (unit order 2))
  | .utf32 order =>
    some (start order 4 ++ chars.flatMap fun c => unit order 4 c.toNat)
  | .single limit =>
    chars.mapM fun c =>
      if c.toNat < limit then some (UInt8.ofNat c.toNat) else none

end Charset

end TreeLint
