import TreeLint.Proofs.Text.Cutting
import TreeLint.Text.Blank

/-
  The lines of a text on which there is something to see.

  Key definitions include:
    * `Text.fedLines`
    * `Text.seen`
    * `Text.lastTrimmed`

  Key theorems include:
    * `Text.fedLines_induction`
    * `Text.seen_fedLines_eq_nil_iff`
    * `Text.seen_fedLines_trimEnd`
    * `Text.seen_fedLines_joinWith`
    * `Text.seen_fedLines_joinWith_lines`

  Only line feeds end a line here.  Trimming the end of a text
  takes the blank lines behind the last one that is seen, and
  the white space at the end of this one.  Joining texts by
  line feeds joins no two of their lines.
-/

------------------------------------------------------------
-- Lines Ended By Line Feeds
------------------------------------------------------------

namespace TreeLint

namespace Text

/- The lines of a text, with a line feed between neighbours. -/
def fedLines (text : List Char) : List (List Char) :=
  pieces (· == '\n') text

theorem fedLines_of_not_mem
    {line : List Char}
    (hFree : '\n' ∉ line) :
    fedLines line = [line] := by
  apply pieces_of_forall_not
  intro c hChar
  rw [beq_eq_false_iff_ne]
  rintro rfl
  exact hFree hChar

theorem fedLines_append_feed
    (text more : List Char) :
    fedLines (text ++ '\n' :: more) = fedLines text ++ fedLines more :=
  pieces_append_separator _ text more '\n' (by decide)

/- A text is a line, or one in front of a line feed and a text. -/
theorem fedLines_induction
    {motive : List Char → Prop}
    (last : ∀ line, '\n' ∉ line → motive line)
    (next :
      ∀ line rest, '\n' ∉ line → motive rest →
        motive (line ++ '\n' :: rest))
    (text : List Char) :
    motive text := by
  have hLines :
      ∀ lines : List (List Char),
        lines ≠ [] →
        (∀ line ∈ lines, '\n' ∉ line) →
        motive (['\n'].intercalate lines) := by
    intro lines hSome hFree
    induction lines with
    | nil => exact absurd rfl hSome
    | cons line rest ih =>
      have hLine := hFree line List.mem_cons_self
      cases rest with
      | nil => simpa using last line hLine
      | cons second others =>
        have hRest :=
          ih (List.cons_ne_nil second others) fun other hOther =>
            hFree other (List.mem_cons_of_mem _ hOther)
        simpa [List.intercalate_cons_cons] using next line _ hLine hRest
  rw [← intercalate_pieces '\n' text]
  refine hLines _ (pieces_ne_nil _ text) ?_
  intro line hLine hFeed
  have hNot := not_separator_of_mem_pieces _ text line hLine '\n' hFeed
  cases hNot

------------------------------------------------------------
-- Blank Texts
------------------------------------------------------------

theorem isBlank_append
    (text more : List Char) :
    isBlank (text ++ more) = (isBlank text && isBlank more) :=
  List.all_append

theorem isBlank_feed
    (text : List Char) :
    isBlank ('\n' :: text) = isBlank text := by
  have hFeed : isBlankChar '\n' = true := by decide
  simp [isBlank, hFeed]

/- Blank characters at the end are trimmed. -/
theorem trimEnd_append_of_isBlank
    (text : List Char)
    {tail : List Char}
    (hTail : isBlank tail = true) :
    trimEnd (text ++ tail) = trimEnd text := by
  have hReverse : ∀ c ∈ tail.reverse, isBlankChar c = true := by
    simpa [isBlank] using hTail
  unfold trimEnd
  rw [List.reverse_append, List.dropWhile_append_of_pos hReverse]

theorem isBlank_trimEnd
    (text : List Char) :
    isBlank (trimEnd text) = isBlank text := by
  rcases trimEnd_append_blank text with ⟨tail, hText, hTail⟩
  conv => rhs; rw [hText, isBlank_append, hTail, Bool.and_true]

theorem trimEnd_eq_nil_iff
    {text : List Char} :
    trimEnd text = [] ↔ isBlank text = true := by
  constructor
  · intro hNil
    rw [← isBlank_trimEnd, hNil]
    rfl
  · intro hBlank
    exact trimEnd_append_of_isBlank [] hBlank

/- Nothing is trimmed in front of a character that is seen. -/
theorem trimEnd_append_of_not_isBlank
    (text : List Char)
    {tail : List Char}
    (hTail : isBlank tail = false) :
    trimEnd (text ++ tail) = text ++ trimEnd tail := by
  have hSome : trimEnd tail ≠ [] := by
    rw [ne_eq, trimEnd_eq_nil_iff, hTail]
    exact Bool.false_ne_true
  unfold trimEnd at hSome ⊢
  rw [List.reverse_append, List.dropWhile_append, if_neg]
  · simp
  · simpa using hSome

theorem not_mem_trimEnd
    {c : Char}
    {text : List Char}
    (hFree : c ∉ text) :
    c ∉ trimEnd text := by
  rcases trimEnd_append_blank text with ⟨tail, hText, _⟩
  rw [hText] at hFree
  exact fun hChar => hFree (List.mem_append_left tail hChar)

------------------------------------------------------------
-- Lines That Are Seen
------------------------------------------------------------

/- Those of some lines that are not blank. -/
def seen (lines : List (List Char)) : List (List Char) :=
  lines.filter fun line => !isBlank line

theorem seen_append
    (lines more : List (List Char)) :
    seen (lines ++ more) = seen lines ++ seen more :=
  List.filter_append lines more

theorem seen_of_isBlank
    {line : List Char}
    (hBlank : isBlank line = true) :
    seen [line] = [] := by
  simp [seen, hBlank]

theorem seen_of_not_isBlank
    {line : List Char}
    (hSeen : isBlank line = false) :
    seen [line] = [line] := by
  simp [seen, hSeen]

/- Nothing of a text is seen exactly if all of it is blank. -/
theorem seen_fedLines_eq_nil_iff
    {text : List Char} :
    seen (fedLines text) = [] ↔ isBlank text = true := by
  induction text using fedLines_induction with
  | last line hLine =>
    rw [fedLines_of_not_mem hLine]
    cases hBlank : isBlank line <;> simp [seen, hBlank]
  | next line rest hLine ih =>
    rw [fedLines_append_feed, seen_append, List.append_eq_nil_iff, ih,
      fedLines_of_not_mem hLine, isBlank_append, isBlank_feed]
    cases hBlank : isBlank line <;> simp [seen, hBlank]

------------------------------------------------------------
-- Trimming The Last Line
------------------------------------------------------------

/- Lines of which the last one is trimmed at its end. -/
def lastTrimmed (lines : List (List Char)) : List (List Char) :=
  lines.dropLast ++ (lines.getLast?.map trimEnd).toList

theorem lastTrimmed_append
    (lines : List (List Char))
    {more : List (List Char)}
    (hSome : more ≠ []) :
    lastTrimmed (lines ++ more) = lines ++ lastTrimmed more := by
  unfold lastTrimmed
  rw [List.dropLast_append_of_ne_nil hSome, List.append_assoc,
    List.getLast?_append, List.getLast?_eq_some_getLast hSome]
  rfl

theorem seen_trimEnd
    (line : List Char) :
    seen [trimEnd line] = lastTrimmed (seen [line]) := by
  cases hBlank : isBlank line with
  | true =>
    rw [seen_of_isBlank hBlank,
      seen_of_isBlank ((isBlank_trimEnd line).trans hBlank)]
    rfl
  | false =>
    rw [seen_of_not_isBlank hBlank,
      seen_of_not_isBlank ((isBlank_trimEnd line).trans hBlank)]
    rfl

/-
  Trimming the end of a text trims the last line that is seen.
  By induction on the lines: the first one is trimmed itself
  only if all that follows is blank.
-/
theorem seen_fedLines_trimEnd
    (text : List Char) :
    seen (fedLines (trimEnd text)) =
      lastTrimmed (seen (fedLines text)) := by
  induction text using fedLines_induction with
  | last line hLine =>
    rw [fedLines_of_not_mem hLine,
      fedLines_of_not_mem (not_mem_trimEnd hLine), seen_trimEnd]
  | next line rest hLine ih =>
    rw [fedLines_append_feed, seen_append, fedLines_of_not_mem hLine]
    cases hBlank : isBlank rest with
    | true =>
      rw [trimEnd_append_of_isBlank line ((isBlank_feed rest).trans hBlank),
        seen_fedLines_eq_nil_iff.mpr hBlank, List.append_nil,
        fedLines_of_not_mem (not_mem_trimEnd hLine), seen_trimEnd]
    | false =>
      have hSome : seen (fedLines rest) ≠ [] := by
        rw [ne_eq, seen_fedLines_eq_nil_iff, hBlank]
        exact Bool.false_ne_true
      have hRest : trimEnd ('\n' :: rest) = '\n' :: trimEnd rest :=
        trimEnd_append_of_not_isBlank ['\n'] hBlank
      rw [trimEnd_append_of_not_isBlank line
          ((isBlank_feed rest).trans hBlank),
        hRest, fedLines_append_feed, seen_append, ih,
        fedLines_of_not_mem hLine, lastTrimmed_append _ hSome]

------------------------------------------------------------
-- Joined Texts
------------------------------------------------------------

/- The lines of joined texts are those of one after the other. -/
theorem seen_fedLines_joinWith
    (texts : List String) :
    seen (fedLines (joinWith "\n" texts).toList) =
      texts.flatMap fun text => seen (fedLines text.toList) := by
  induction texts with
  | nil => decide
  | cons first rest ih =>
    cases rest with
    | nil => simp [joinWith]
    | cons second others =>
      have hText :
          (joinWith "\n" (first :: second :: others)).toList =
            first.toList
              ++ '\n' :: (joinWith "\n" (second :: others)).toList := by
        simp [joinWith, String.intercalate_cons_cons]
      rw [hText, fedLines_append_feed, seen_append, ih]
      rfl

/- An empty text among them adds no line that is seen. -/
theorem seen_fedLines_joinWith_filter
    (texts : List String) :
    seen (fedLines
        (joinWith "\n" (texts.filter fun text => !text.isEmpty)).toList) =
      texts.flatMap fun text => seen (fedLines text.toList) := by
  rw [seen_fedLines_joinWith]
  induction texts with
  | nil => rfl
  | cons first rest ih =>
    rw [List.flatMap_cons, ← ih]
    cases hEmpty : first.isEmpty with
    | true =>
      have hFirst : first = "" := String.isEmpty_iff.mp hEmpty
      have hNothing : seen (fedLines "".toList) = [] := by decide
      rw [List.filter_cons_of_neg (by simp [hEmpty]), hFirst, hNothing,
        List.nil_append]
    | false =>
      rw [List.filter_cons_of_pos (by simp [hEmpty]), List.flatMap_cons]

/- Texts that are lines are joined to just these lines. -/
theorem seen_fedLines_joinWith_lines
    {lines : List (List Char)}
    (hFree : ∀ line ∈ lines, '\n' ∉ line) :
    seen (fedLines
        (joinWith "\n" (lines.map String.ofList)).toList) =
      seen lines := by
  rw [seen_fedLines_joinWith, List.flatMap_map]
  induction lines with
  | nil => rfl
  | cons line rest ih =>
    have hRest :=
      ih fun other hOther => hFree other (List.mem_cons_of_mem _ hOther)
    rw [List.flatMap_cons, hRest, String.toList_ofList,
      fedLines_of_not_mem (hFree line List.mem_cons_self), ← seen_append,
      List.singleton_append]

end Text

end TreeLint
