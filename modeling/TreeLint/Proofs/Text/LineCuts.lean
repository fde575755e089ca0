import TreeLint.Proofs.Text.Cutting
import TreeLint.Text.Blank

/-
  The lines of a text.

  Key definitions include:
    * `Text.IsUnbroken`
    * `Text.IsLineOf`
    * `Text.CutInto`

  Key theorems include:
    * `Text.cutInto_iff`
    * `Text.isLineOf_iff`
    * `Text.isBlankText_joinWith`

  A line is a maximal piece of a text without a line break.
  Every text is cut into its lines in one way, and this way is
  the one that cutting at line breaks finds.
-/

------------------------------------------------------------
-- Lines Of A Text
------------------------------------------------------------

namespace TreeLint

namespace Text

/- A text on one line. -/
def IsUnbroken (text : List Char) : Prop :=
  ∀ c ∈ text, isLineBreak c = false

instance : DecidablePred IsUnbroken :=
  List.decidableBAll _

theorem IsUnbroken.cons
    {c : Char}
    {text : List Char}
    (hText : IsUnbroken text)
    (hChar : isLineBreak c = false) :
    IsUnbroken (c :: text) := by
  intro d hMem
  rcases List.mem_cons.mp hMem with rfl | hLater
  · exact hChar
  · exact hText d hLater

/-
  A piece without a line break that cannot be made longer: on
  either side of it is a line break or nothing.
-/
def IsLineOf (line text : List Char) : Prop :=
  IsUnbroken line ∧
  ∃ front behind,
    text = front ++ line ++ behind ∧
    (∀ c ∈ front.getLast?, isLineBreak c = true) ∧
    (∀ c ∈ behind.head?, isLineBreak c = true)

/- The lines of a text in order, a line break between neighbours. -/
inductive CutInto : List Char → List (List Char) → Prop where
  | last
      {line : List Char}
      (hLine : IsUnbroken line) :
      CutInto line [line]
  | next
      {line rest : List Char}
      {lines : List (List Char)}
      {c : Char}
      (hLine : IsUnbroken line)
      (hBreak : isLineBreak c = true)
      (hRest : CutInto rest lines) :
      CutInto (line ++ c :: rest) (line :: lines)

------------------------------------------------------------
-- Cutting Finds The Lines
------------------------------------------------------------

theorem cutInto_pieces
    (text : List Char) :
    CutInto text (pieces isLineBreak text) := by
  induction text with
  | nil => exact .last (by simp [IsUnbroken])
  | cons c rest ih =>
    cases hBreak : isLineBreak c with
    | true =>
      have hCut :
          pieces isLineBreak (c :: rest) =
            [] :: pieces isLineBreak rest := by
        simp [pieces, hBreak]
      rw [hCut]
      exact @CutInto.next [] _ _ c (by simp [IsUnbroken]) hBreak ih
    | false =>
      rcases exists_pieces_eq_cons isLineBreak rest with
        ⟨first, others, hRest⟩
      have hCut :
          pieces isLineBreak (c :: rest) = (c :: first) :: others := by
        simp [pieces, hBreak, hRest]
      rw [hCut]
      rw [hRest] at ih
      cases ih with
      | last hLine => exact .last (hLine.cons hBreak)
      | next hLine hEnd hMore => exact .next (hLine.cons hBreak) hEnd hMore

/- A text has no other lines than those that cutting finds. -/
theorem cutInto_iff
    {text : List Char}
    {lines : List (List Char)} :
    CutInto text lines ↔ pieces isLineBreak text = lines := by
  constructor
  · intro hCut
    induction hCut with
    | last hLine => exact pieces_of_forall_not isLineBreak _ hLine
    | next hLine hBreak hRest ih =>
      rw [pieces_append_separator isLineBreak _ _ _ hBreak,
        pieces_of_forall_not isLineBreak _ hLine, ih]
      rfl
  · rintro rfl
    exact cutInto_pieces text

/- A line of what stands behind a line break is a line of it all. -/
theorem IsLineOf.behind
    {line text front : List Char}
    {c : Char}
    (hLine : IsLineOf line text)
    (hBreak : isLineBreak c = true) :
    IsLineOf line (front ++ c :: text) := by
  rcases hLine with ⟨hFree, before, behind, rfl, hBefore, hBehind⟩
  refine
    ⟨hFree, front ++ c :: before, behind, by simp, ?_, hBehind⟩
  intro d hLast
  rw [List.getLast?_append, List.getLast?_cons] at hLast
  cases hFront : before.getLast? with
  | none =>
    have hEq : c = d := by simpa [hFront] using hLast
    exact hEq ▸ hBreak
  | some e =>
    have hEq : e = d := by simpa [hFront] using hLast
    exact hEq ▸ hBefore e hFront

theorem CutInto.isLineOf
    {text line : List Char}
    {lines : List (List Char)}
    (hCut : CutInto text lines)
    (hLine : line ∈ lines) :
    IsLineOf line text := by
  induction hCut with
  | last hFree =>
    rw [List.mem_singleton.mp hLine]
    exact ⟨hFree, [], [], by simp, by simp, by simp⟩
  | @next first rest others c hFree hBreak hRest ih =>
    rcases List.mem_cons.mp hLine with rfl | hLater
    · exact
        ⟨hFree, [], c :: rest, by simp, by simp, by simpa using hBreak⟩
    · exact (ih hLater).behind hBreak

/- What stands at the start of a text up to a line break is a piece. -/
theorem mem_pieces_of_head
    {line behind : List Char}
    (hFree : IsUnbroken line)
    (hBehind : ∀ c ∈ behind.head?, isLineBreak c = true) :
    line ∈ pieces isLineBreak (line ++ behind) := by
  cases behind with
  | nil =>
    rw [List.append_nil, pieces_of_forall_not isLineBreak line hFree]
    exact List.mem_singleton_self line
  | cons c rest =>
    rw [pieces_append_separator isLineBreak _ _ _ (hBehind c rfl),
      pieces_of_forall_not isLineBreak line hFree]
    exact List.mem_append_left _ (List.mem_singleton_self line)

theorem isLineOf_iff
    {line text : List Char} :
    IsLineOf line text ↔ line ∈ pieces isLineBreak text := by
  constructor
  · rintro ⟨hFree, front, behind, rfl, hFront, hBehind⟩
    have hHead := mem_pieces_of_head hFree hBehind
    rcases List.eq_nil_or_concat front with rfl | ⟨before, c, hConcat⟩
    · exact hHead
    · have hBreak : isLineBreak c = true := by
        apply hFront
        simp [hConcat]
      rw [hConcat, List.concat_eq_append, List.append_assoc,
        List.append_assoc, List.singleton_append,
        pieces_append_separator isLineBreak _ _ _ hBreak]
      exact List.mem_append_right _ hHead
  · exact (cutInto_pieces text).isLineOf

------------------------------------------------------------
-- Lines Without Anything To See
------------------------------------------------------------

/- Joining adds line feeds, and they are blank. -/
theorem isBlankText_joinWith
    (texts : List String) :
    isBlankText (joinWith "\n" texts) = texts.all isBlankText := by
  have hFeed : isBlank "\n".toList = true := by decide
  induction texts with
  | nil => rfl
  | cons first rest ih =>
    cases rest with
    | nil => simp [joinWith]
    | cons second others =>
      unfold isBlankText joinWith at ih ⊢
      rw [String.intercalate_cons_cons, String.toList_append,
        String.toList_append]
      unfold isBlank at ih hFeed ⊢
      rw [List.all_append, List.all_append, hFeed, ih, List.all_cons]
      simp

end Text

end TreeLint
