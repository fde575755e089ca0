import TreeLint.Proofs.Text.Utf8
import TreeLint.Text.Lines
import TreeLint.Text.RawByte

/-
  Cutting texts whose characters are written differently.

  Key theorems include:
    * `Text.pieces_flatMap`
    * `Text.mem_pieces_cons`
    * `Text.mem_pieces_append_singleton`
    * `Text.intercalate_pieces`
    * `Text.nonemptyLines_append_break`
    * `Text.nonemptyLines_of_ended`
    * `RawByte.toList_hold`

  Where every separator is written as itself and no other
  character is written with one, a text is cut at the same
  places before and after.  Holding single bytes as characters
  is such a way of writing.
-/

------------------------------------------------------------
-- Pieces
------------------------------------------------------------

namespace TreeLint

namespace Text

section

variable {isSeparator : Char → Bool}

theorem exists_pieces_eq_cons
    (isSeparator : Char → Bool)
    (text : List Char) :
    ∃ first others, pieces isSeparator text = first :: others := by
  cases hPieces : pieces isSeparator text with
  | nil => exact absurd hPieces (pieces_ne_nil isSeparator text)
  | cons first others => exact ⟨first, others, rfl⟩

/- What holds no separator joins the first piece behind it. -/
theorem pieces_append_of_forall_not
    {front text first : List Char}
    {others : List (List Char)}
    (hFree : ∀ c ∈ front, isSeparator c = false)
    (hText : pieces isSeparator text = first :: others) :
    pieces isSeparator (front ++ text) = (front ++ first) :: others := by
  induction front with
  | nil => exact hText
  | cons c rest ih =>
    have hRest := ih fun d hChar => hFree d (List.mem_cons_of_mem _ hChar)
    have hChar := hFree c List.mem_cons_self
    simp [pieces, hChar, hRest]

/-
  A text is cut at the same places when its characters are
  written differently, separators excepted.
-/
theorem pieces_flatMap
    {write : Char → List Char}
    (hSeparator : ∀ c, isSeparator c = true → write c = [c])
    (hFree :
      ∀ c, isSeparator c = false →
        ∀ d ∈ write c, isSeparator d = false)
    (text : List Char) :
    pieces isSeparator (text.flatMap write) =
      (pieces isSeparator text).map (List.flatMap write) := by
  induction text with
  | nil => rfl
  | cons c rest ih =>
    rcases exists_pieces_eq_cons isSeparator rest with
      ⟨first, others, hRest⟩
    rw [hRest, List.map_cons] at ih
    cases hChar : isSeparator c with
    | true => simp [hSeparator c hChar, pieces, hChar, ih, hRest]
    | false =>
      rw [List.flatMap_cons,
        pieces_append_of_forall_not (hFree c hChar) ih]
      simp [pieces, hChar, hRest]

/- A character in front only changes the piece that holds it. -/
theorem mem_pieces_cons
    {c : Char}
    {text piece : List Char}
    (hChar : isSeparator c = false)
    (hPiece : piece ∈ pieces isSeparator (c :: text)) :
    c ∈ piece ∨ piece ∈ pieces isSeparator text := by
  rcases exists_pieces_eq_cons isSeparator text with
    ⟨first, others, hText⟩
  simp only [pieces, hChar, hText, List.mem_cons] at hPiece ⊢
  rcases hPiece with rfl | hOther
  · exact Or.inl List.mem_cons_self
  · exact Or.inr (Or.inr hOther)

/- A character at the end joins the last piece. -/
theorem pieces_append_singleton
    {c : Char}
    (text : List Char)
    (hChar : isSeparator c = false) :
    ∃ front last,
      pieces isSeparator text = front ++ [last] ∧
        pieces isSeparator (text ++ [c]) = front ++ [last ++ [c]] := by
  induction text with
  | nil => exact ⟨[], [], rfl, by simp [pieces, hChar]⟩
  | cons d rest ih =>
    rcases ih with ⟨front, last, hRest, hLonger⟩
    cases hSep : isSeparator d with
    | true =>
      refine ⟨[] :: front, last, ?_, ?_⟩
      · simp [pieces, hSep, hRest]
      · simp [pieces, hSep, hLonger]
    | false =>
      cases front with
      | nil =>
        refine ⟨[], d :: last, ?_, ?_⟩
        · simp [pieces, hSep, hRest]
        · simp [pieces, hSep, hLonger]
      | cons first others =>
        refine ⟨(d :: first) :: others, last, ?_, ?_⟩
        · simp [pieces, hSep, hRest]
        · simp [pieces, hSep, hLonger]

/- So it only changes the piece that holds it, too. -/
theorem mem_pieces_append_singleton
    {c : Char}
    {text piece : List Char}
    (hChar : isSeparator c = false)
    (hPiece : piece ∈ pieces isSeparator (text ++ [c])) :
    c ∈ piece ∨ piece ∈ pieces isSeparator text := by
  rcases pieces_append_singleton text hChar with
    ⟨front, last, hText, hLonger⟩
  rw [hLonger] at hPiece
  rw [hText]
  rcases List.mem_append.mp hPiece with hFront | hLast
  · exact Or.inr (List.mem_append_left _ hFront)
  · rw [List.mem_singleton.mp hLast]
    exact Or.inl (by simp)

end

/- The pieces at one character, joined by it, are the text. -/
theorem intercalate_pieces
    (separator : Char)
    (text : List Char) :
    [separator].intercalate (pieces (· == separator) text) = text := by
  induction text with
  | nil => simp [pieces]
  | cons c rest ih =>
    rcases exists_pieces_eq_cons (· == separator) rest with
      ⟨first, others, hRest⟩
    rw [hRest] at ih
    cases hChar : c == separator with
    | true =>
      have hEq : c = separator := by simpa using hChar
      simp [pieces, hRest, List.intercalate_cons_cons, ih, hEq]
    | false =>
      cases others with
      | nil => simpa [pieces, hChar, hRest] using ih
      | cons second more =>
        simp only [pieces, hChar, hRest, List.intercalate_cons_cons]
          at ih ⊢
        rw [← ih]
        simp

------------------------------------------------------------
-- Lines
------------------------------------------------------------

/- A line break ends the lines in front of it. -/
theorem nonemptyLines_append_break
    {c : Char}
    (before after : List Char)
    (hBreak : isLineBreak c = true) :
    nonemptyLines (before ++ c :: after) =
      nonemptyLines before ++ nonemptyLines after := by
  unfold nonemptyLines
  rw [pieces_append_separator isLineBreak before after c hBreak,
    List.filter_append]

/- Lines that are each ended by a line feed are found again. -/
theorem nonemptyLines_of_ended
    {lines : List (List Char)}
    (hSome : ∀ line ∈ lines, line ≠ [])
    (hFree : ∀ line ∈ lines, ∀ c ∈ line, isLineBreak c = false) :
    nonemptyLines (lines.flatMap (· ++ ['\n'])) = lines := by
  induction lines with
  | nil => rfl
  | cons line rest ih =>
    have hRest :=
      ih (fun other hOther => hSome other (List.mem_cons_of_mem _ hOther))
        (fun other hOther => hFree other (List.mem_cons_of_mem _ hOther))
    have hLine : line ≠ [] := hSome line List.mem_cons_self
    have hPieces :
        pieces isLineBreak
            (line ++ '\n' :: rest.flatMap (· ++ ['\n'])) =
          line :: pieces isLineBreak (rest.flatMap (· ++ ['\n'])) := by
      rw [pieces_append_separator isLineBreak _ _ '\n' rfl,
        pieces_of_forall_not _ _ (hFree line List.mem_cons_self)]
      rfl
    unfold nonemptyLines at hRest ⊢
    rw [List.flatMap_cons, List.append_assoc, List.singleton_append,
      hPieces, List.filter_cons_of_pos (by simpa using hLine), hRest]

end Text

------------------------------------------------------------
-- Held Texts
------------------------------------------------------------

namespace RawByte

/- A text is held character by character. -/
theorem toList_hold
    (text : String) :
    (hold text).toList = text.toList.flatMap holdChar := by
  unfold hold
  split
  · next hPlain =>
    have hAll : ∀ c ∈ text.toList, (byte? c).isNone = true := by
      simpa using hPlain
    symm
    generalize text.toList = chars at hAll
    induction chars with
    | nil => rfl
    | cons c rest ih =>
      have hChar : byte? c = none := by
        simpa using hAll c List.mem_cons_self
      have hRest :=
        ih fun d hLater => hAll d (List.mem_cons_of_mem _ hLater)
      simp [holdChar, hChar, hRest]
  · exact String.toList_ofList

theorem base_le_toNat_ofByte
    (b : UInt8) :
    base ≤ (ofByte b).toNat := by
  have hByte : b.toNat < 256 := b.toNat_lt
  have hValid : (base + b.toNat).isValidChar := by
    right
    unfold base
    omega
  have hValue : (ofByte b).toNat = base + b.toNat := by
    rw [ofByte, Char.ofNat, dif_pos hValid]
    rfl
  rw [hValue]
  exact Nat.le_add_right _ _

/- A character is held as itself or by code points of bytes. -/
theorem holdChar_cases
    (c : Char) :
    holdChar c = [c] ∨
      (base ≤ c.toNat ∧ holdChar c ≠ [] ∧
        ∀ d ∈ holdChar c, base ≤ d.toNat) := by
  unfold holdChar
  cases hByte : byte? c with
  | none => exact Or.inl rfl
  | some b =>
    refine Or.inr ⟨?_, ?_, ?_⟩
    · unfold byte? at hByte
      split at hByte
      · next hRange =>
        simp only [Bool.and_eq_true, decide_eq_true_eq] at hRange
        omega
      · cases hByte
    · simp [Utf8.encode_eq]
    · intro d hMem
      rcases List.mem_map.mp hMem with ⟨b, _, rfl⟩
      exact base_le_toNat_ofByte b

end RawByte

end TreeLint
