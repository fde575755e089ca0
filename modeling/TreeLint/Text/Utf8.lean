/-
  UTF-8 texts as lists of bytes.

  Key definitions include:
    * `Utf8.takeChar`
    * `Utf8.decodeLossy`
    * `Utf8.decode?`
    * `Utf8.encode`

  Key theorems include:
    * `Utf8.takeChar_length_le`

  Decoding reads one character after another.  Where no
  character can be read, the longest beginning that some
  character could have started with is one fault, and a
  single byte if there is none; a lossy reading writes one
  replacement character for every fault.
-/

------------------------------------------------------------
-- One Character
------------------------------------------------------------

namespace TreeLint

namespace Utf8

/-
  What a first byte of 0x80 or more announces: the number of
  bytes to follow, the range of the first of them, and the
  bits that the first byte contributes.
-/
structure Lead where
  following : Nat
  low : UInt8
  high : UInt8
  bits : Nat

/- The announcement of a first byte, if it is one. -/
def Lead.ofByte? (b : UInt8) : Option Lead :=
  if 0xC2 ≤ b && b ≤ 0xDF then
    some ⟨1, 0x80, 0xBF, b.toNat - 0xC0⟩
  else if b == 0xE0 then
    some ⟨2, 0xA0, 0xBF, 0⟩
  else if (0xE1 ≤ b && b ≤ 0xEC) || b == 0xEE || b == 0xEF then
    some ⟨2, 0x80, 0xBF, b.toNat - 0xE0⟩
  else if b == 0xED then
    some ⟨2, 0x80, 0x9F, 0xD⟩
  else if b == 0xF0 then
    some ⟨3, 0x90, 0xBF, 0⟩
  else if 0xF1 ≤ b && b ≤ 0xF3 then
    some ⟨3, 0x80, 0xBF, b.toNat - 0xF0⟩
  else if b == 0xF4 then
    some ⟨3, 0x80, 0x8F, 4⟩
  else
    none

/-
  Read the following bytes.  The range given is that of the
  next byte; every later one lies in 0x80 to 0xBF.
-/
def takeFollowing
    (bits : Nat)
    (low high : UInt8) :
    Nat → List UInt8 → Option Char × List UInt8
  | 0, rest => (some (Char.ofNat bits), rest)
  | _ + 1, [] => (none, [])
  | n + 1, b :: rest =>
    if low ≤ b && b ≤ high then
      takeFollowing (bits * 64 + (b.toNat - 0x80)) 0x80 0xBF n rest
    else
      (none, b :: rest)

/-
  Read one character from a byte and those behind it.  The
  answer is `none` for a fault, with the bytes behind it.
-/
def takeChar (b : UInt8) (rest : List UInt8) : Option Char × List UInt8 :=
  if b < 0x80 then
    (some (Char.ofNat b.toNat), rest)
  else
    match Lead.ofByte? b with
    | none => (none, rest)
    | some lead =>
      takeFollowing lead.bits lead.low lead.high lead.following rest

theorem takeFollowing_length_le
    (bits : Nat)
    (low high : UInt8)
    (n : Nat)
    (rest : List UInt8) :
    (takeFollowing bits low high n rest).2.length ≤ rest.length := by
  induction n generalizing bits low high rest with
  | zero => simp [takeFollowing]
  | succ n ih =>
    cases rest with
    | nil => simp [takeFollowing]
    | cons b rest =>
      simp only [takeFollowing]
      split
      · exact Nat.le_trans (ih ..) (Nat.le_succ _)
      · simp

/- Reading one character leaves no more bytes than there were. -/
theorem takeChar_length_le
    (b : UInt8)
    (rest : List UInt8) :
    (takeChar b rest).2.length ≤ rest.length := by
  simp only [takeChar]
  split
  · simp
  · split
    · simp
    · exact takeFollowing_length_le ..

------------------------------------------------------------
-- Texts
------------------------------------------------------------

/- The characters of a text, with `none` for every fault. -/
def readChars : List UInt8 → List (Option Char)
  | [] => []
  | b :: rest =>
    (takeChar b rest).1 :: readChars (takeChar b rest).2
termination_by bytes => bytes.length
decreasing_by
  have hLe := takeChar_length_le b rest
  simp only [List.length_cons]
  omega

/- The character that stands for a fault. -/
def replacement : Char := '\uFFFD'

/- Read a text, writing one replacement character a fault. -/
def decodeLossy (bytes : List UInt8) : String :=
  String.ofList ((readChars bytes).map (·.getD replacement))

/- Read a text; a fault anywhere makes it no text. -/
def decode? (bytes : List UInt8) : Option String :=
  ((readChars bytes).mapM id).map String.ofList

/- The bytes of a text. -/
def encode (text : String) : List UInt8 :=
  text.toUTF8.toList

end Utf8

end TreeLint
