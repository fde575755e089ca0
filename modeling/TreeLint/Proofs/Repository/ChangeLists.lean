import TreeLint.Proofs.Text.LineCuts
import TreeLint.Repository.Changes

/-
  Lists of changed files, however their lines are ended.

  Key definitions include:
    * `Text.Lists`

  Key theorems include:
    * `Text.Lists.nonemptyLines_eq`
    * `Text.mem_nonemptyLines_iff`
    * `Changes.parsed_lines_form_set`

  A text lists names where runs of line breaks stand between
  them, and perhaps at either end.  Which breaks these are and
  how many makes no difference to the names that are read.
-/

------------------------------------------------------------
-- Listed Names
------------------------------------------------------------

namespace TreeLint

namespace Text

/- A text of nothing but line breaks. -/
def IsGap (text : List Char) : Prop :=
  ∀ c ∈ text, isLineBreak c = true

instance : DecidablePred IsGap :=
  List.decidableBAll _

/-
  A text lists names, none of them empty or with a line break
  in it.  In front of each stand any number of line breaks.
  What follows a name is nothing, or starts with a line break.
-/
inductive Lists : List Char → List (List Char) → Prop where
  | done
      {gap : List Char}
      (hGap : IsGap gap) :
      Lists gap []
  | next
      {gap name rest : List Char}
      {names : List (List Char)}
      (hGap : IsGap gap)
      (hSome : name ≠ [])
      (hName : IsUnbroken name)
      (hApart : ∀ c ∈ rest.head?, isLineBreak c = true)
      (hRest : Lists rest names) :
      Lists (gap ++ name ++ rest) (name :: names)

------------------------------------------------------------
-- Reading Listed Names
------------------------------------------------------------

/- Line breaks in front of a text are no lines. -/
theorem nonemptyLines_gap_append
    {gap : List Char}
    (text : List Char)
    (hGap : IsGap gap) :
    nonemptyLines (gap ++ text) = nonemptyLines text := by
  induction gap with
  | nil => rfl
  | cons c rest ih =>
    have hRest := ih fun d hLater => hGap d (List.mem_cons_of_mem _ hLater)
    have hCut :=
      nonemptyLines_append_break [] (rest ++ text)
        (hGap c List.mem_cons_self)
    rw [List.cons_append, ← hRest]
    exact hCut

/- A text without a line break is a line. -/
theorem nonemptyLines_of_isUnbroken
    {line : List Char}
    (hSome : line ≠ [])
    (hLine : IsUnbroken line) :
    nonemptyLines line = [line] := by
  unfold nonemptyLines
  rw [pieces_of_forall_not isLineBreak line hLine]
  exact List.filter_cons_of_pos (by simpa using hSome)

/- It is the first line of what starts with it and a break. -/
theorem nonemptyLines_append_of_isUnbroken
    {line rest : List Char}
    (hSome : line ≠ [])
    (hLine : IsUnbroken line)
    (hApart : ∀ c ∈ rest.head?, isLineBreak c = true) :
    nonemptyLines (line ++ rest) = line :: nonemptyLines rest := by
  have hAlone := nonemptyLines_of_isUnbroken hSome hLine
  cases rest with
  | nil => rw [List.append_nil, hAlone]; rfl
  | cons c behind =>
    have hBreak : isLineBreak c = true := hApart c rfl
    have hBehind := nonemptyLines_append_break [] behind hBreak
    rw [nonemptyLines_append_break line behind hBreak, hAlone]
    exact congrArg (line :: ·) hBehind.symm

/- The names that a text lists are its lines.  By induction on them. -/
theorem Lists.nonemptyLines_eq
    {text : List Char}
    {names : List (List Char)}
    (hLists : Lists text names) :
    nonemptyLines text = names := by
  induction hLists with
  | @done gap hGap =>
    rw [← List.append_nil gap, nonemptyLines_gap_append [] hGap]
    rfl
  | next hGap hSome hName hApart hRest ih =>
    rw [List.append_assoc, nonemptyLines_gap_append _ hGap,
      nonemptyLines_append_of_isUnbroken hSome hName hApart, ih]

theorem mem_nonemptyLines_iff
    {line text : List Char} :
    line ∈ nonemptyLines text ↔ line ≠ [] ∧ IsLineOf line text := by
  unfold nonemptyLines
  rw [List.mem_filter, isLineOf_iff, and_comm]
  simp

end Text

------------------------------------------------------------
-- The Set Of Changed Files
------------------------------------------------------------

namespace Changes

theorem mem_parseNames_iff
    {text : String}
    {top p : Path} :
    p ∈ parseNames text top ↔
      ∃ line ∈ Text.nonemptyLines text.toList,
        p = top.resolve (String.ofList line) := by
  simp [parseNames, PathSet.resolved, eq_comm]

/-
  A text that lists names in any order and with repetitions
  stands for the set of their paths.  In general the set has a
  path for each line that is not empty, and for nothing else.
  So a line break between two texts unites their sets.
-/
theorem parsed_lines_form_set
    (top : Path) :
    (∀ (text : String) (names listed : List String),
      Text.Lists text.toList (listed.map String.toList) →
      (∀ name, name ∈ listed ↔ name ∈ names) →
      ∀ p,
        p ∈ parseNames text top ↔
          p ∈ PathSet.resolved top names) ∧
    (∀ (text : String) (p : Path),
      p ∈ parseNames text top ↔
        ∃ line : String,
          line ≠ "" ∧
          Text.IsLineOf line.toList text.toList ∧
          p = top.resolve line) ∧
    (∀ (before after : String) (c : Char),
      c = '\r' ∨ c = '\n' →
      ∀ p,
        p ∈ parseNames (before ++ String.singleton c ++ after) top ↔
          p ∈ parseNames before top ∨ p ∈ parseNames after top) := by
  refine ⟨?_, ?_, ?_⟩
  · intro text names listed hLists hSame p
    rw [mem_parseNames_iff, hLists.nonemptyLines_eq]
    constructor
    · rintro ⟨line, hLine, rfl⟩
      obtain ⟨name, hName, rfl⟩ := List.mem_map.mp hLine
      exact List.mem_map.mpr ⟨name, (hSame name).mp hName, by simp⟩
    · intro hPath
      obtain ⟨name, hName, rfl⟩ := List.mem_map.mp hPath
      exact
        ⟨name.toList,
          List.mem_map.mpr ⟨name, (hSame name).mpr hName, rfl⟩,
          by simp⟩
  · intro text p
    rw [mem_parseNames_iff]
    constructor
    · rintro ⟨line, hLine, rfl⟩
      obtain ⟨hSome, hOf⟩ := Text.mem_nonemptyLines_iff.mp hLine
      exact
        ⟨String.ofList line, by simpa using hSome, by simpa using hOf,
          rfl⟩
    · rintro ⟨line, hSome, hOf, rfl⟩
      exact
        ⟨line.toList,
          Text.mem_nonemptyLines_iff.mpr ⟨by simpa using hSome, hOf⟩,
          by simp⟩
  · intro before after c hChar p
    have hBreak : Text.isLineBreak c = true := by
      rcases hChar with rfl | rfl <;> rfl
    have hText :
        (before ++ String.singleton c ++ after).toList =
          before.toList ++ c :: after.toList := by
      simp
    rw [mem_parseNames_iff, mem_parseNames_iff, mem_parseNames_iff,
      hText, Text.nonemptyLines_append_break _ _ hBreak]
    simp only [List.mem_append, or_and_right, exists_or]

/-
  Line breaks of both kinds stand around two names, of which
  one comes twice.
-/
theorem mixed_breaks_list_names :
    Text.Lists "\r\nx/../a.h\rb.h\n\n\rx/../a.h".toList
      (["x/../a.h", "b.h", "x/../a.h"].map String.toList) ∧
    "/r/a.h" ∈
      parseNames "\r\nx/../a.h\rb.h\n\n\rx/../a.h" "/r" ∧
    "/r/x" ∉ parseNames "\r\nx/../a.h\rb.h\n\n\rx/../a.h" "/r" := by
  have hListed :
      Text.Lists
        (['\r', '\n'] ++ "x/../a.h".toList ++
          (['\r'] ++ "b.h".toList ++
            (['\n', '\n', '\r'] ++ "x/../a.h".toList ++ [])))
        (["x/../a.h", "b.h", "x/../a.h"].map String.toList) := by
    have hApart :
        ∀ (c : Char) (behind : List Char),
          Text.isLineBreak c = true →
          ∀ d ∈ (c :: behind).head?, Text.isLineBreak d = true := by
      rintro c behind hBreak d ⟨⟩
      exact hBreak
    refine .next (by decide) (by decide) (by decide) (hApart _ _ rfl) ?_
    refine .next (by decide) (by decide) (by decide) (hApart _ _ rfl) ?_
    exact
      .next (by decide) (by decide) (by decide) (by rintro c ⟨⟩)
        (.done (by decide))
  have hLists :
      Text.Lists "\r\nx/../a.h\rb.h\n\n\rx/../a.h".toList
        (["x/../a.h", "b.h", "x/../a.h"].map String.toList) := by
    simpa using hListed
  rcases parsed_lines_form_set "/r" with ⟨hSame, -, -⟩
  have hPaths :=
    hSame _ ["b.h", "x/../a.h"] ["x/../a.h", "b.h", "x/../a.h"] hLists
      (by simp [or_comm])
  refine ⟨hLists, (hPaths _).mpr (by decide), ?_⟩
  intro hOther
  exact absurd ((hPaths _).mp hOther) (by decide)

end Changes

end TreeLint
