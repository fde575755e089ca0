import TreeLint.Text.Utf8

/-
  Reading back what is written as UTF-8.

  Key theorems include:
    * `Utf8.takeFollowing_cons`
    * `Utf8.takeChar_encodeChar_append`
    * `Utf8.decode?_encode`
    * `Utf8.decodeLossy_encode`

  The bytes of a character start with one that announces how
  many follow.  The announcement narrows the range of the
  second byte, which excludes overlong forms, surrogates and
  what lies above the last code point; no character needs any
  of these.
-/

------------------------------------------------------------
-- Announcements
------------------------------------------------------------

namespace TreeLint

namespace Utf8

deriving instance DecidableEq for Lead

theorem ofByte?_of_two_bytes :
    ∀ k < 32, 2 ≤ k →
      Lead.ofByte? (UInt8.ofNat (k + 0xC0)) =
        some ⟨1, 0x80, 0xBF, k⟩ := by
  decide

theorem ofByte?_of_three_bytes :
    ∀ k < 16,
      Lead.ofByte? (UInt8.ofNat (k + 0xE0)) =
        some
          ⟨2, if k = 0 then 0xA0 else 0x80,
            if k = 13 then 0x9F else 0xBF, k⟩ := by
  decide

theorem ofByte?_of_four_bytes :
    ∀ k < 5,
      Lead.ofByte? (UInt8.ofNat (k + 0xF0)) =
        some
          ⟨3, if k = 0 then 0x90 else 0x80,
            if k = 4 then 0x8F else 0xBF, k⟩ := by
  decide

------------------------------------------------------------
-- Following Bytes
------------------------------------------------------------

/- A following byte in its range adds its six bits. -/
theorem takeFollowing_cons
    {bits n x : Nat}
    {low high : UInt8}
    (rest : List UInt8)
    (hLow : low.toNat ≤ x % 64 + 0x80)
    (hHigh : x % 64 + 0x80 ≤ high.toNat) :
    takeFollowing bits low high (n + 1)
        (UInt8.ofNat (x % 64 + 0x80) :: rest) =
      takeFollowing (bits * 64 + x % 64) 0x80 0xBF n rest := by
  have hByte : (UInt8.ofNat (x % 64 + 0x80)).toNat = x % 64 + 0x80 := by
    rw [UInt8.toNat_ofNat']
    omega
  have hRange :
      (low ≤ UInt8.ofNat (x % 64 + 0x80)
        && UInt8.ofNat (x % 64 + 0x80) ≤ high) = true := by
    rw [Bool.and_eq_true, decide_eq_true_eq, decide_eq_true_eq,
      UInt8.le_iff_toNat_le, UInt8.le_iff_toNat_le, hByte]
    exact ⟨hLow, hHigh⟩
  rw [takeFollowing, if_pos hRange, hByte, Nat.add_sub_cancel]

/- Behind the second byte every six bits are in the range. -/
theorem takeFollowing_next
    (bits n x : Nat)
    (rest : List UInt8) :
    takeFollowing bits 0x80 0xBF (n + 1)
        (UInt8.ofNat (x % 64 + 0x80) :: rest) =
      takeFollowing (bits * 64 + x % 64) 0x80 0xBF n rest := by
  apply takeFollowing_cons
  · simp
  · simp
    omega

------------------------------------------------------------
-- Characters
------------------------------------------------------------

/- A byte of 0x80 or more is read as its announcement says. -/
theorem takeChar_of_lead
    {k : Nat}
    {lead : Lead}
    (rest : List UInt8)
    (hHigh : 0x80 ≤ k)
    (hByte : k < 0x100)
    (hLead : Lead.ofByte? (UInt8.ofNat k) = some lead) :
    takeChar (UInt8.ofNat k) rest =
      takeFollowing lead.bits lead.low lead.high lead.following
        rest := by
  have hNot : ¬ UInt8.ofNat k < 0x80 := by
    rw [UInt8.lt_iff_toNat_lt, UInt8.toNat_ofNat']
    simp
    omega
  rw [takeChar, if_neg hNot, hLead]

/- The scalar value of a character is no surrogate. -/
theorem toNat_char
    (c : Char) :
    c.toNat < 0xD800 ∨ (0xDFFF < c.toNat ∧ c.toNat < 0x110000) :=
  c.valid

/- What is written for a character is read back, whatever follows. -/
theorem takeChar_encodeChar_append
    (c : Char)
    (rest : List UInt8) :
    ∃ b behind,
      String.utf8EncodeChar c ++ rest = b :: behind ∧
        takeChar b behind = (some c, rest) := by
  have hValid := toNat_char c
  have hBack : Char.ofNat c.toNat = c := Char.ofNat_toNat c
  generalize hValue : c.toNat = v at hValid hBack
  have hVal : c.val.toNat = v := hValue
  unfold String.utf8EncodeChar
  simp only [hVal]
  split
  · next hOne =>
    refine ⟨_, _, rfl, ?_⟩
    have hByte : (UInt8.ofNat v).toNat = v := by
      rw [UInt8.toNat_ofNat']
      omega
    have hLt : UInt8.ofNat v < 0x80 := by
      rw [UInt8.lt_iff_toNat_lt, hByte]
      exact Nat.lt_succ_of_le hOne
    rw [takeChar, if_pos hLt, hByte, hBack]
    rfl
  · split
    · next hOne hTwo =>
      refine ⟨_, _, List.cons_append, ?_⟩
      have hFirst : v / 64 % 32 = v / 64 := by omega
      have hSum : v / 64 * 64 + v % 64 = v := by omega
      rw [hFirst,
        takeChar_of_lead _ (by omega) (by omega)
          (ofByte?_of_two_bytes (v / 64) (by omega) (by omega)),
        List.cons_append, takeFollowing_next, hSum]
      simp [takeFollowing, hBack]
    · split
      · next hTwo hThree =>
        refine ⟨_, _, List.cons_append, ?_⟩
        have hFirst : v / 4096 % 16 = v / 4096 := by omega
        have hLow :
            (if v / 4096 = 0 then (0xA0 : UInt8) else 0x80).toNat ≤
              v / 64 % 64 + 0x80 := by
          split
          · simp
            omega
          · simp
        have hHigh :
            v / 64 % 64 + 0x80 ≤
              (if v / 4096 = 13 then (0x9F : UInt8) else 0xBF).toNat := by
          split <;> simp <;> omega
        have hSum :
            (v / 4096 * 64 + v / 64 % 64) * 64 + v % 64 = v := by
          omega
        rw [hFirst,
          takeChar_of_lead _ (by omega) (by omega)
            (ofByte?_of_three_bytes (v / 4096) (by omega)),
          List.cons_append, takeFollowing_cons _ hLow hHigh,
          List.cons_append, takeFollowing_next, hSum]
        simp [takeFollowing, hBack]
      · next hThree =>
        refine ⟨_, _, List.cons_append, ?_⟩
        have hFirst : v / 262144 % 8 = v / 262144 := by omega
        have hLow :
            (if v / 262144 = 0 then (0x90 : UInt8) else 0x80).toNat ≤
              v / 4096 % 64 + 0x80 := by
          split
          · simp
            omega
          · simp
        have hHigh :
            v / 4096 % 64 + 0x80 ≤
              (if v / 262144 = 4 then (0x8F : UInt8) else 0xBF).toNat := by
          split <;> simp <;> omega
        have hSum :
            ((v / 262144 * 64 + v / 4096 % 64) * 64 + v / 64 % 64) * 64
                + v % 64 = v := by
          omega
        rw [hFirst,
          takeChar_of_lead _ (by omega) (by omega)
            (ofByte?_of_four_bytes (v / 262144) (by omega)),
          List.cons_append, takeFollowing_cons _ hLow hHigh,
          List.cons_append, takeFollowing_next,
          List.cons_append, takeFollowing_next, hSum]
        simp [takeFollowing, hBack]

------------------------------------------------------------
-- Texts
------------------------------------------------------------

/- By induction on the number of bytes that are left. -/
theorem toList_loop
    (bytes : ByteArray)
    (i : Nat)
    (read : List UInt8) :
    ByteArray.toList.loop bytes i read =
      read.reverse ++ bytes.data.toList.drop i := by
  have hSize : bytes.data.toList.length = bytes.size := rfl
  induction hLeft : bytes.size - i generalizing i read with
  | zero =>
    rw [ByteArray.toList.loop, if_neg (by omega),
      List.drop_eq_nil_of_le (by omega), List.append_nil]
  | succ left ih =>
    have hMore : i < bytes.size := by omega
    have hDrop := List.drop_eq_getElem_cons (hSize.symm ▸ hMore)
    rw [ByteArray.toList.loop, if_pos hMore, ih _ _ (by omega), hDrop]
    simp [ByteArray.get!, hMore]

/- The bytes of a text are those of its characters. -/
theorem encode_eq
    (text : String) :
    encode text = text.toList.flatMap String.utf8EncodeChar := by
  have hBytes :
      text.toUTF8 =
        (text.toList.flatMap String.utf8EncodeChar).toByteArray :=
    String.utf8Encode_toList.symm
  rw [encode, hBytes, ByteArray.toList, toList_loop,
    List.toList_data_toByteArray]
  rfl

theorem readChars_encode
    (chars : List Char) :
    readChars (chars.flatMap String.utf8EncodeChar) =
      chars.map some := by
  induction chars with
  | nil => rw [List.flatMap_nil, readChars, List.map_nil]
  | cons c rest ih =>
    rcases takeChar_encodeChar_append c
        (rest.flatMap String.utf8EncodeChar) with
      ⟨b, behind, hBytes, hTake⟩
    rw [List.flatMap_cons, hBytes, readChars, hTake, ih, List.map_cons]

/- What is written is read back. -/
theorem decode?_encode
    (text : String) :
    decode? (encode text) = some text := by
  have hAll :
      (text.toList.map some).mapM id = some text.toList := by
    induction text.toList with
    | nil => rfl
    | cons c rest ih => simp [ih]
  rw [decode?, encode_eq, readChars_encode, hAll, Option.map_some,
    String.ofList_toList]

/- What is written has no fault to be replaced. -/
theorem decodeLossy_encode
    (text : String) :
    decodeLossy (encode text) = text := by
  rw [decodeLossy, encode_eq, readChars_encode, List.map_map]
  simp [Function.comp_def]

end Utf8

end TreeLint
