import TreeLint.Proofs.Text.Cutting
import TreeLint.Text.RawByte

/-
  Bytes that are held as a text.

  Key definitions include:
    * `RawByte.IsHeld`

  Key theorems include:
    * `Utf8.eq_append_of_takeChar_eq_some`
    * `Utf8.infix_of_mem_readChars`
    * `RawByte.IsHeld.eq_of_encode_eq`
    * `RawByte.isText_iff`
    * `RawByte.self_iff_of_unique`
    * `RawByte.mem_of_mem_mended`

  Bytes are held as a text, and the text tells them.  So two
  texts that hold bytes are the same if their bytes are, and
  can be put in order by these.  A reader sees a plain text as
  it is, and of other bytes what can be read of them.  What is
  read stands there in its own bytes, so of the characters
  with a single byte a reader sees none that is not there.
-/

------------------------------------------------------------
-- Characters That Were Read
------------------------------------------------------------

namespace TreeLint

namespace Utf8

/- Announcements are bytes of three kinds. -/
theorem lead_cases :
    ∀ k < 0x100, 0x80 ≤ k →
      (Lead.ofByte? (UInt8.ofNat k)).isSome →
      (0xC2 ≤ k ∧ k < 0xE0) ∨ (0xE0 ≤ k ∧ k < 0xF0) ∨
        (0xF0 ≤ k ∧ k < 0xF5) := by
  decide +kernel

theorem takeFollowing_succ_eq_some
    {bits n : Nat}
    {low high : UInt8}
    {rest after : List UInt8}
    {c : Char}
    (hTake : takeFollowing bits low high (n + 1) rest = (some c, after)) :
    ∃ b behind,
      rest = b :: behind ∧
      low.toNat ≤ b.toNat ∧ b.toNat ≤ high.toNat ∧
      takeFollowing (bits * 64 + (b.toNat - 0x80)) 0x80 0xBF n behind =
        (some c, after) := by
  cases rest with
  | nil => simp [takeFollowing] at hTake
  | cons b behind =>
    rw [takeFollowing] at hTake
    split at hTake
    · next hRange =>
      rw [Bool.and_eq_true, decide_eq_true_eq, decide_eq_true_eq,
        UInt8.le_iff_toNat_le, UInt8.le_iff_toNat_le] at hRange
      exact ⟨b, behind, rfl, hRange.1, hRange.2, hTake⟩
    · simp at hTake

theorem toNat_val_ofNat
    {v : Nat}
    (hValid : v.isValidChar) :
    (Char.ofNat v).val.toNat = v := by
  unfold Char.ofNat
  rw [dif_pos hValid]
  rfl

section

variable {v : Nat}

theorem utf8EncodeChar_of_one_byte
    (hHigh : v < 0x80) :
    String.utf8EncodeChar (Char.ofNat v) = [UInt8.ofNat v] := by
  unfold String.utf8EncodeChar
  simp only [toNat_val_ofNat (v := v) (.inl (by omega))]
  rw [if_pos (by omega)]

theorem utf8EncodeChar_of_two_bytes
    (hLow : 0x80 ≤ v)
    (hHigh : v < 0x800) :
    String.utf8EncodeChar (Char.ofNat v) =
      [UInt8.ofNat (v / 64 + 0xC0), UInt8.ofNat (v % 64 + 0x80)] := by
  have hFirst : v / 64 % 32 = v / 64 := by omega
  unfold String.utf8EncodeChar
  simp only [toNat_val_ofNat (v := v) (.inl (by omega))]
  rw [if_neg (by omega), if_pos (by omega), hFirst]

theorem utf8EncodeChar_of_three_bytes
    (hLow : 0x800 ≤ v)
    (hHigh : v < 0x10000)
    (hValid : v < 0xD800 ∨ 0xDFFF < v) :
    String.utf8EncodeChar (Char.ofNat v) =
      [UInt8.ofNat (v / 4096 + 0xE0), UInt8.ofNat (v / 64 % 64 + 0x80),
        UInt8.ofNat (v % 64 + 0x80)] := by
  have hChar : v.isValidChar :=
    hValid.imp_right fun hAbove => ⟨hAbove, by omega⟩
  have hFirst : v / 4096 % 16 = v / 4096 := by omega
  unfold String.utf8EncodeChar
  simp only [toNat_val_ofNat hChar]
  rw [if_neg (by omega), if_neg (by omega), if_pos (by omega), hFirst]

theorem utf8EncodeChar_of_four_bytes
    (hLow : 0x10000 ≤ v)
    (hHigh : v < 0x110000) :
    String.utf8EncodeChar (Char.ofNat v) =
      [UInt8.ofNat (v / 262144 + 0xF0),
        UInt8.ofNat (v / 4096 % 64 + 0x80),
        UInt8.ofNat (v / 64 % 64 + 0x80),
        UInt8.ofNat (v % 64 + 0x80)] := by
  have hChar : v.isValidChar := .inr ⟨by omega, hHigh⟩
  have hFirst : v / 262144 % 8 = v / 262144 := by omega
  unfold String.utf8EncodeChar
  simp only [toNat_val_ofNat hChar]
  rw [if_neg (by omega), if_neg (by omega), if_neg (by omega), hFirst]

end

------------------------------------------------------------
-- Back To The Bytes
------------------------------------------------------------

theorem ofNat_eq_of_toNat_eq
    {b : UInt8}
    {n : Nat}
    (hByte : n = b.toNat) :
    UInt8.ofNat n = b := by
  rw [hByte, UInt8.ofNat_toNat]

section

variable {k : Nat} {b : UInt8} {rest after : List UInt8} {c : Char}

theorem eq_append_of_two_bytes
    (hByte : b.toNat = k + 0xC0)
    (hFrom : 2 ≤ k)
    (hTo : k < 32)
    (hTake : takeFollowing k 0x80 0xBF 1 rest = (some c, after)) :
    b :: rest = String.utf8EncodeChar c ++ after := by
  rcases takeFollowing_succ_eq_some hTake with
    ⟨x, behind, rfl, hX, hX', hLast⟩
  simp only [UInt8.reduceToNat] at hX hX'
  rw [takeFollowing, Prod.mk.injEq, Option.some.injEq] at hLast
  rcases hLast with ⟨rfl, rfl⟩
  rw [utf8EncodeChar_of_two_bytes (by omega) (by omega),
    @ofNat_eq_of_toNat_eq b _ (by omega),
    @ofNat_eq_of_toNat_eq x _ (by omega)]
  rfl

/- The second byte is in a range that leaves out the surrogates. -/
theorem eq_append_of_three_bytes
    (hByte : b.toNat = k + 0xE0)
    (hTo : k < 16)
    (hTake :
      takeFollowing k (if k = 0 then 0xA0 else 0x80)
          (if k = 13 then 0x9F else 0xBF) 2 rest =
        (some c, after)) :
    b :: rest = String.utf8EncodeChar c ++ after := by
  rcases takeFollowing_succ_eq_some hTake with
    ⟨x, _, rfl, hX, hX', hNext⟩
  rcases takeFollowing_succ_eq_some hNext with
    ⟨y, behind, rfl, hY, hY', hLast⟩
  simp only [apply_ite UInt8.toNat, UInt8.reduceToNat] at hX hX' hY hY'
  have hLow : 0x80 ≤ x.toNat ∧ (k = 0 → 0xA0 ≤ x.toNat) := by
    split at hX <;> omega
  have hHigh : x.toNat ≤ 0xBF ∧ (k = 13 → x.toNat ≤ 0x9F) := by
    split at hX' <;> omega
  rw [takeFollowing, Prod.mk.injEq, Option.some.injEq] at hLast
  rcases hLast with ⟨rfl, rfl⟩
  rw [utf8EncodeChar_of_three_bytes (by omega) (by omega) (by omega),
    @ofNat_eq_of_toNat_eq b _ (by omega),
    @ofNat_eq_of_toNat_eq x _ (by omega),
    @ofNat_eq_of_toNat_eq y _ (by omega)]
  rfl

/- The second byte is in a range that ends with the last code point. -/
theorem eq_append_of_four_bytes
    (hByte : b.toNat = k + 0xF0)
    (hTo : k < 5)
    (hTake :
      takeFollowing k (if k = 0 then 0x90 else 0x80)
          (if k = 4 then 0x8F else 0xBF) 3 rest =
        (some c, after)) :
    b :: rest = String.utf8EncodeChar c ++ after := by
  rcases takeFollowing_succ_eq_some hTake with
    ⟨x, _, rfl, hX, hX', hNext⟩
  rcases takeFollowing_succ_eq_some hNext with
    ⟨y, _, rfl, hY, hY', hNext⟩
  rcases takeFollowing_succ_eq_some hNext with
    ⟨z, behind, rfl, hZ, hZ', hLast⟩
  simp only [apply_ite UInt8.toNat, UInt8.reduceToNat] at hX hX' hY hY'
  simp only [UInt8.reduceToNat] at hZ hZ'
  have hLow : 0x80 ≤ x.toNat ∧ (k = 0 → 0x90 ≤ x.toNat) := by
    split at hX <;> omega
  have hHigh : x.toNat ≤ 0xBF ∧ (k = 4 → x.toNat ≤ 0x8F) := by
    split at hX' <;> omega
  rw [takeFollowing, Prod.mk.injEq, Option.some.injEq] at hLast
  rcases hLast with ⟨rfl, rfl⟩
  rw [utf8EncodeChar_of_four_bytes (by omega) (by omega),
    @ofNat_eq_of_toNat_eq b _ (by omega),
    @ofNat_eq_of_toNat_eq x _ (by omega),
    @ofNat_eq_of_toNat_eq y _ (by omega),
    @ofNat_eq_of_toNat_eq z _ (by omega)]
  rfl

/-
  What a character was read from is what is written for it.
  The cases are those of the announcement.
-/
theorem eq_append_of_takeChar_eq_some
    (hTake : takeChar b rest = (some c, after)) :
    b :: rest = String.utf8EncodeChar c ++ after := by
  rw [takeChar] at hTake
  split at hTake
  · next hOne =>
    rw [UInt8.lt_iff_toNat_lt] at hOne
    cases hTake
    rw [utf8EncodeChar_of_one_byte hOne, ofNat_eq_of_toNat_eq rfl,
      List.singleton_append]
  · next hMore =>
    have hHigh : 0x80 ≤ b.toNat := by
      simpa [UInt8.lt_iff_toNat_lt] using hMore
    split at hTake
    · cases hTake
    · next lead hLead =>
      rw [← @ofNat_eq_of_toNat_eq b _ rfl] at hLead
      rcases lead_cases b.toNat b.toNat_lt hHigh
          (by rw [hLead]; rfl) with
        ⟨hFrom, hTo⟩ | ⟨hFrom, hTo⟩ | ⟨hFrom, hTo⟩
      · rcases Nat.exists_eq_add_of_le'
            (Nat.le_trans (by decide : 0xC0 ≤ 0xC2) hFrom) with
          ⟨k, hK⟩
        rw [hK, ofByte?_of_two_bytes k (by omega) (by omega)] at hLead
        cases hLead
        exact eq_append_of_two_bytes hK (by omega) (by omega) hTake
      · rcases Nat.exists_eq_add_of_le' hFrom with ⟨k, hK⟩
        rw [hK, ofByte?_of_three_bytes k (by omega)] at hLead
        cases hLead
        exact eq_append_of_three_bytes hK (by omega) hTake
      · rcases Nat.exists_eq_add_of_le' hFrom with ⟨k, hK⟩
        rw [hK, ofByte?_of_four_bytes k (by omega)] at hLead
        cases hLead
        exact eq_append_of_four_bytes hK (by omega) hTake

end

------------------------------------------------------------
-- What Is Read Stands There
------------------------------------------------------------

theorem takeFollowing_suffix
    (bits : Nat)
    (low high : UInt8)
    (n : Nat)
    (rest : List UInt8) :
    (takeFollowing bits low high n rest).2 <:+ rest := by
  induction n generalizing bits low high rest with
  | zero => exact List.suffix_rfl
  | succ n ih =>
    cases rest with
    | nil => exact List.suffix_rfl
    | cons b behind =>
      rw [takeFollowing]
      split
      · exact (ih _ _ _ behind).trans (List.suffix_cons b behind)
      · exact List.suffix_rfl

/- What is left is what the bytes end with. -/
theorem takeChar_suffix
    (b : UInt8)
    (rest : List UInt8) :
    (takeChar b rest).2 <:+ rest := by
  rw [takeChar]
  split
  · exact List.suffix_rfl
  · split
    · exact List.suffix_rfl
    · exact takeFollowing_suffix _ _ _ _ _

/-
  The bytes of a character that is read stand in a row.  By
  induction on the bytes as they are read.
-/
theorem infix_of_mem_readChars
    {c : Char}
    {bytes : List UInt8}
    (hIn : some c ∈ readChars bytes) :
    String.utf8EncodeChar c <:+: bytes := by
  fun_induction readChars bytes with
  | case1 => cases hIn
  | case2 b rest ih =>
    rcases List.mem_cons.mp hIn with hFirst | hLater
    · have hTake :
          takeChar b rest = (some c, (takeChar b rest).2) :=
        Prod.ext hFirst.symm rfl
      rw [eq_append_of_takeChar_eq_some hTake]
      exact (List.prefix_append _ _).isInfix
    · have hBehind : (takeChar b rest).2 <:+ b :: rest :=
        (takeChar_suffix b rest).trans (List.suffix_cons b rest)
      exact (ih hLater).trans hBehind.isInfix

/- A character of more than one byte has none that is a character. -/
theorem le_of_mem_utf8EncodeChar
    {c : Char}
    {b : UInt8}
    (hHigh : 0x80 ≤ c.toNat)
    (hIn : b ∈ String.utf8EncodeChar c) :
    0x80 ≤ b.toNat := by
  have hVal : c.val.toNat = c.toNat := rfl
  unfold String.utf8EncodeChar at hIn
  simp only [hVal] at hIn
  split at hIn
  · omega
  · split at hIn
    · simp only [List.mem_cons, List.not_mem_nil, or_false] at hIn
      rcases hIn with rfl | rfl <;> rw [UInt8.toNat_ofNat'] <;> omega
    · split at hIn
      · simp only [List.mem_cons, List.not_mem_nil, or_false] at hIn
        rcases hIn with rfl | rfl | rfl <;>
          rw [UInt8.toNat_ofNat'] <;> omega
      · simp only [List.mem_cons, List.not_mem_nil, or_false] at hIn
        rcases hIn with rfl | rfl | rfl | rfl <;>
          rw [UInt8.toNat_ofNat'] <;> omega

/- A character of one byte is that byte. -/
theorem utf8EncodeChar_of_lt
    {c : Char}
    (hLow : c.toNat < 0x80) :
    String.utf8EncodeChar c = [UInt8.ofNat c.toNat] := by
  rw [← utf8EncodeChar_of_one_byte hLow, Char.ofNat_toNat]

/- A character of one byte is seen only where that byte is. -/
theorem mem_of_mem_decodeLossy
    {c : Char}
    {bytes : List UInt8}
    (hLow : c.toNat < 0x80)
    (hIn : c ∈ (decodeLossy bytes).toList) :
    UInt8.ofNat c.toNat ∈ bytes := by
  rw [decodeLossy, String.toList_ofList] at hIn
  rcases List.mem_map.mp hIn with ⟨read, hRead, hChar⟩
  cases read with
  | none =>
    have hFault : replacement.toNat = 0xFFFD := rfl
    rw [← hChar, Option.getD_none, hFault] at hLow
    omega
  | some d =>
    rw [Option.getD_some] at hChar
    subst hChar
    have hRow := infix_of_mem_readChars hRead
    rw [utf8EncodeChar_of_lt hLow] at hRow
    exact hRow.subset List.mem_cons_self

end Utf8

------------------------------------------------------------
-- Bytes Held As A Text
------------------------------------------------------------

namespace RawByte

/- The bytes that a character holds. -/
def charBytes (c : Char) : List UInt8 :=
  match byte? c with
  | some b => [b]
  | none => String.utf8EncodeChar c

theorem encode_eq
    (text : String) :
    encode text = text.toList.flatMap charBytes := by
  unfold encode
  congr 1
  funext c
  unfold charBytes
  cases byte? c with
  | some b => rfl
  | none => simp [Utf8.encode_eq]

theorem encode_ofList
    (chars : List Char) :
    encode (String.ofList chars) = chars.flatMap charBytes := by
  rw [encode_eq, String.toList_ofList]

theorem byte?_ofByte
    {b : UInt8}
    (hHigh : 0x80 ≤ b.toNat) :
    byte? (ofByte b) = some b := by
  have hLt := b.toNat_lt
  have hValue : (ofByte b).toNat = base + b.toNat :=
    Utf8.toNat_val_ofNat (.inr (by unfold base; omega))
  unfold byte?
  rw [hValue, Nat.add_sub_cancel_left, UInt8.ofNat_toNat, if_pos]
  simp only [Bool.and_eq_true, decide_eq_true_eq]
  omega

/- Code points that stand for bytes lie high, and so do the bytes. -/
theorem le_of_byte?_eq_some
    {c : Char}
    {b : UInt8}
    (hByte : byte? c = some b) :
    0x80 ≤ c.toNat ∧ 0x80 ≤ b.toNat := by
  unfold byte? at hByte
  split at hByte
  · next hRange =>
    rw [Bool.and_eq_true, decide_eq_true_eq, decide_eq_true_eq] at hRange
    rw [← Option.some.inj hByte, UInt8.toNat_ofNat']
    omega
  · cases hByte

/- Bytes of 0x80 or more are held one by one. -/
theorem encode_map_ofByte
    {bytes : List UInt8}
    (hHigh : ∀ b ∈ bytes, 0x80 ≤ b.toNat) :
    encode (String.ofList (bytes.map ofByte)) = bytes := by
  rw [encode_ofList]
  induction bytes with
  | nil => rfl
  | cons b rest ih =>
    have hFirst := byte?_ofByte (hHigh b List.mem_cons_self)
    have hRest :=
      ih fun other hOther => hHigh other (List.mem_cons_of_mem _ hOther)
    rw [List.map_cons, List.flatMap_cons, hRest, charBytes, hFirst,
      List.singleton_append]

theorem encode_holdChar
    (c : Char) :
    encode (String.ofList (holdChar c)) = String.utf8EncodeChar c := by
  unfold holdChar
  split
  · next b hByte =>
    have hBytes :
        Utf8.encode (String.singleton c) = String.utf8EncodeChar c := by
      rw [Utf8.encode_eq]
      simp
    rw [hBytes]
    exact
      encode_map_ofByte fun x hIn =>
        Utf8.le_of_mem_utf8EncodeChar (le_of_byte?_eq_some hByte).1 hIn
  · next hPlain =>
    rw [encode_ofList]
    simp [charBytes, hPlain]

/- Whether a text is the one that holds some bytes. -/
def IsHeld (text : String) : Prop :=
  decode (encode text) = text

instance : DecidablePred IsHeld :=
  fun text => inferInstanceAs (Decidable (decode (encode text) = text))

/-
  A text in which every character stands for itself holds its
  own bytes.  By induction on its characters.
-/
theorem isHeld_of_isPlain
    {text : String}
    (hPlain : isPlain text = true) :
    IsHeld text := by
  have hBack :
      ∀ chars : List Char,
        (∀ c ∈ chars, byte? c = none) →
        decodeChars (chars.flatMap charBytes) = chars := by
    intro chars hChars
    induction chars with
    | nil => rw [List.flatMap_nil, decodeChars]
    | cons c rest ih =>
      have hFirst := hChars c List.mem_cons_self
      have hRest :=
        ih fun other hOther => hChars other (List.mem_cons_of_mem _ hOther)
      rcases Utf8.takeChar_encodeChar_append c (rest.flatMap charBytes)
        with ⟨b, behind, hBytes, hTake⟩
      rw [List.flatMap_cons, charBytes, hFirst, hBytes, decodeChars,
        hTake]
      simp [holdChar, hFirst, hRest]
  unfold IsHeld decode
  rw [encode_eq, hBack, String.ofList_toList]
  simpa [isPlain] using hPlain

theorem IsHeld.eq_of_encode_eq
    {text other : String}
    (hText : IsHeld text)
    (hOther : IsHeld other)
    (hSame : encode text = encode other) :
    text = other := by
  calc text
    _ = decode (encode text) := hText.symm
    _ = decode (encode other) := by rw [hSame]
    _ = other := hOther

------------------------------------------------------------
-- What A Reader Sees
------------------------------------------------------------

/- A held text has the bytes of the text that it holds. -/
theorem encode_hold
    (text : String) :
    encode (hold text) = Utf8.encode text := by
  have hChar :
      ∀ c, (holdChar c).flatMap charBytes = String.utf8EncodeChar c := by
    intro c
    rw [← encode_ofList, encode_holdChar]
  rw [encode_eq, toList_hold, List.flatMap_assoc, Utf8.encode_eq]
  simp only [hChar]

theorem hold_of_isPlain
    {text : String}
    (hPlain : isPlain text = true) :
    hold text = text :=
  if_pos hPlain

/- A plain text is seen as it is held. -/
theorem mended_hold
    (text : String) :
    mended (hold text) = hold text := by
  unfold mended shown
  split
  · next hPlain => exact hold_of_isPlain hPlain
  · rw [encode_hold, Utf8.decodeLossy_encode]

/- The texts without bytes outside UTF-8 are the plain ones, held. -/
theorem isText_iff
    {text : String} :
    isText text = true ↔ ∃ plain, text = hold plain := by
  rw [isText, beq_iff_eq]
  constructor
  · intro hSeen
    exact ⟨shown text, hSeen.symm⟩
  · rintro ⟨plain, rfl⟩
    exact mended_hold plain

/-
  Where what a reader sees of a text is the only one of some
  kind, the text itself is of this kind exactly if it holds a
  plain one.
-/
theorem self_iff_of_unique
    {isOfKind : String → Prop}
    {text : String}
    (hSeen : isOfKind (mended text))
    (hUnique : ∀ other, isOfKind other → mended text = other) :
    isOfKind text ↔ ∃ plain, text = hold plain := by
  rw [← isText_iff, isText, beq_iff_eq]
  constructor
  · exact hUnique text
  · intro hSame
    rwa [hSame] at hSeen

section

variable {c : Char} {text : String}

theorem mem_of_mem_encode
    (hLow : c.toNat < 0x80)
    (hIn : UInt8.ofNat c.toNat ∈ encode text) :
    c ∈ text.toList := by
  have hByte : (UInt8.ofNat c.toNat).toNat = c.toNat := by
    rw [UInt8.toNat_ofNat']
    omega
  rw [encode_eq] at hIn
  rcases List.mem_flatMap.mp hIn with ⟨d, hD, hIn⟩
  unfold charBytes at hIn
  split at hIn
  · next b hRaw =>
    have hHigh := (le_of_byte?_eq_some hRaw).2
    rw [← List.mem_singleton.mp hIn, hByte] at hHigh
    omega
  · by_cases hOne : d.toNat < 0x80
    · rw [Utf8.utf8EncodeChar_of_lt hOne] at hIn
      have hSame := congrArg UInt8.toNat (List.mem_singleton.mp hIn)
      rw [hByte, UInt8.toNat_ofNat', Nat.mod_eq_of_lt (by omega)] at hSame
      rwa [Char.toNat_inj.mp hSame]
    · have hHigh := Utf8.le_of_mem_utf8EncodeChar (by omega) hIn
      omega

theorem mem_of_mem_hold
    (hLow : c.toNat < 0x80)
    (hIn : c ∈ (hold text).toList) :
    c ∈ text.toList := by
  rw [toList_hold] at hIn
  rcases List.mem_flatMap.mp hIn with ⟨d, hD, hIn⟩
  unfold holdChar at hIn
  split at hIn
  · rcases List.mem_map.mp hIn with ⟨b, -, rfl⟩
    have hLt := b.toNat_lt
    have hValue : (ofByte b).toNat = base + b.toNat :=
      Utf8.toNat_val_ofNat (.inr (by unfold base; omega))
    have hBase : base = 0x10FE00 := rfl
    omega
  · rwa [List.mem_singleton.mp hIn]

/- A reader sees no character of one byte that is not there. -/
theorem mem_of_mem_mended
    (hLow : c.toNat < 0x80)
    (hIn : c ∈ (mended text).toList) :
    c ∈ text.toList := by
  have hShown := mem_of_mem_hold hLow hIn
  unfold shown at hShown
  split at hShown
  · exact hShown
  · exact
      mem_of_mem_encode hLow (Utf8.mem_of_mem_decodeLossy hLow hShown)

end

end RawByte

end TreeLint
