/-
  Digests of bytes.

  Key definitions include:
    * `Digest.blocks`
    * `Digest.compress`
    * `Digest.ofBytes`
    * `Digest.hex`

  The digest is SHA-1: the bytes are padded to blocks of 64,
  and every block changes five words of 32 bits.  It is used
  to name contents, not to protect them.
-/

------------------------------------------------------------
-- Blocks
------------------------------------------------------------

namespace TreeLint

namespace Digest

/- The bytes of a number, the highest first. -/
def bigEndian (count n : Nat) : List UInt8 :=
  (List.range count).reverse.map fun i => UInt8.ofNat (n / Nat.pow 256 i)

/- The bytes in whole blocks, with their number at the end. -/
def padded (bytes : List UInt8) : List UInt8 :=
  let gap := (119 - bytes.length % 64) % 64
  bytes ++ 0x80 :: List.replicate gap 0 ++ bigEndian 8 (8 * bytes.length)

/- The word of four bytes. -/
def word (a b c d : UInt8) : UInt32 :=
  (a.toUInt32 <<< 24) ||| (b.toUInt32 <<< 16) ||| (c.toUInt32 <<< 8)
    ||| d.toUInt32

/- The words of a list of bytes. -/
def words : List UInt8 → List UInt32
  | a :: b :: c :: d :: rest => word a b c d :: words rest
  | _ => []

/- A list in pieces of sixteen. -/
def blocks : List UInt32 → List (List UInt32)
  | a :: b :: c :: d :: e :: f :: g :: h :: i :: j :: k :: l :: m :: n
      :: o :: p :: rest =>
    [a, b, c, d, e, f, g, h, i, j, k, l, m, n, o, p] :: blocks rest
  | _ => []

------------------------------------------------------------
-- Rounds
------------------------------------------------------------

/- The five words that blocks change. -/
structure State where
  a : UInt32
  b : UInt32
  c : UInt32
  d : UInt32
  e : UInt32

/- The words before the first block. -/
def start : State :=
  ⟨0x67452301, 0xEFCDAB89, 0x98BADCFE, 0x10325476, 0xC3D2E1F0⟩

/- A word turned to the left. -/
def rotate (w : UInt32) (n : UInt32) : UInt32 :=
  (w <<< n) ||| (w >>> (32 - n))

/- Sixty-four more words behind the sixteen of a block. -/
def schedule (block : List UInt32) : Array UInt32 :=
  (List.range 64).foldl
    (fun w i =>
      w.push (rotate
        (w.getD (i + 13) 0 ^^^ w.getD (i + 8) 0 ^^^ w.getD (i + 2) 0
          ^^^ w.getD i 0) 1))
    block.toArray

/- One round with a word. -/
def round (s : State) (i : Nat) (w : UInt32) : State :=
  let (f, k) :=
    if i < 20 then
      ((s.b &&& s.c) ||| ((s.b ^^^ 0xFFFFFFFF) &&& s.d),
        (0x5A827999 : UInt32))
    else if i < 40 then (s.b ^^^ s.c ^^^ s.d, 0x6ED9EBA1)
    else if i < 60 then
      ((s.b &&& s.c) ||| (s.b &&& s.d) ||| (s.c &&& s.d), 0x8F1BBCDC)
    else (s.b ^^^ s.c ^^^ s.d, 0xCA62C1D6)
  ⟨rotate s.a 5 + f + s.e + k + w, s.a, rotate s.b 30, s.c, s.d⟩

/- All rounds with a block. -/
def compress (s : State) (block : List UInt32) : State :=
  let w := schedule block
  let r := (List.range 80).foldl (fun r i => round r i (w.getD i 0)) s
  ⟨s.a + r.a, s.b + r.b, s.c + r.c, s.d + r.d, s.e + r.e⟩

------------------------------------------------------------
-- Digests
------------------------------------------------------------

/- The twenty bytes of the digest. -/
def ofBytes (bytes : List UInt8) : List UInt8 :=
  let s := (blocks (words (padded bytes))).foldl compress start
  [s.a, s.b, s.c, s.d, s.e].flatMap (fun w => bigEndian 4 w.toNat)

/- A digit of base sixteen. -/
def hexDigit (n : Nat) : Char :=
  if n < 10 then Char.ofNat (0x30 + n) else Char.ofNat (0x57 + n)

/- Bytes written with two digits each. -/
def hex (bytes : List UInt8) : String :=
  String.ofList (bytes.flatMap fun b =>
    [hexDigit (b.toNat / 16), hexDigit (b.toNat % 16)])

/- The digest of bytes, written out. -/
def text (bytes : List UInt8) : String :=
  hex (ofBytes bytes)

end Digest

end TreeLint
