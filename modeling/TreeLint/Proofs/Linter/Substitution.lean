import TreeLint.Proofs.Linter.Arguments
import TreeLint.Text.Lines

/-
  Texts in which the source root has been put.

  Key definitions include:
    * `Placeholder.PutBetween`

  Key theorems include:
    * `Placeholder.expand_append`
    * `Placeholder.exists_pieces`
    * `Placeholder.expand_joinWith`
    * `RawByte.isAbsolute_mended`
    * `Placeholder.not_mentions_expand`
    * `Placeholder.root_put_between_pieces_iff`

  A text is pieces with a placeholder between neighbours, and
  expanding it writes what a reader sees of the root between
  the same pieces.  This is not read on the way, whatever it
  holds.  Nor can it complete a placeholder with what stands
  around it, for it starts with a slash and no placeholder has
  one.
-/

------------------------------------------------------------
-- Texts Around A Placeholder
------------------------------------------------------------

namespace TreeLint

namespace Placeholder

theorem expand_append
    (root : Path)
    (before after : String) :
    expand (before ++ mark ++ after) root =
      expand before root ++ RawByte.mended root ++
        expand after root := by
  have hChars :=
    expandChars_append (RawByte.mended root).toList before.toList
      after.toList
  rw [← String.toList_inj]
  simp [expand, hChars]

theorem expand_of_free
    (root : Path)
    {text : String}
    (hFree : ¬ Mentions text) :
    expand text root = text := by
  rw [expand, expandChars_of_free (RawByte.mended root).toList hFree,
    String.ofList_toList]

------------------------------------------------------------
-- Pieces Between Placeholders
------------------------------------------------------------

/-
  Every text is pieces without a placeholder, joined by
  placeholders.  By induction on the length of the text, since
  the first placeholder leaves a shorter one behind it.
-/
theorem exists_pieces
    (text : String) :
    ∃ pieces : List String,
      pieces ≠ [] ∧
      (∀ piece ∈ pieces, ¬ Mentions piece) ∧
      Text.joinWith mark pieces = text := by
  induction hLength : text.length using Nat.strongRecOn
    generalizing text with
  | ind length ih =>
    by_cases hMark : Mentions text
    · rcases exists_first_mark hMark with ⟨before, after, hText, hFree⟩
      have hShorter : after.length < length := by
        have hMarkLength : mark.length = 6 := rfl
        rw [← hLength, hText]
        simp only [String.length_append]
        omega
      rcases ih after.length hShorter after rfl with
        ⟨pieces, hSome, hPieces, hAfter⟩
      refine ⟨before :: pieces, List.cons_ne_nil _ _, ?_, ?_⟩
      · exact List.forall_mem_cons.mpr ⟨hFree, hPieces⟩
      · rcases List.exists_cons_of_ne_nil hSome with ⟨first, rest, rfl⟩
        rw [Text.joinWith, String.intercalate_cons_cons, hText, ← hAfter,
          Text.joinWith]
    · refine ⟨[text], List.cons_ne_nil _ _, ?_, ?_⟩
      · simpa using hMark
      · simp [Text.joinWith]

/- What a reader sees of the root comes between the pieces. -/
theorem expand_joinWith
    (root : Path)
    {pieces : List String}
    (hPieces : ∀ piece ∈ pieces, ¬ Mentions piece) :
    expand (Text.joinWith mark pieces) root =
      Text.joinWith (RawByte.mended root) pieces := by
  unfold Text.joinWith
  induction pieces with
  | nil => rfl
  | cons first rest ih =>
    obtain ⟨hFirst, hRest⟩ := List.forall_mem_cons.mp hPieces
    cases rest with
    | nil => simpa using expand_of_free root hFirst
    | cons second others =>
      rw [String.intercalate_cons_cons, String.intercalate_cons_cons,
        expand_append, expand_of_free root hFirst, ih hRest]

------------------------------------------------------------
-- No New Placeholders
------------------------------------------------------------

/-
  A word whose first character a text does not hold cannot
  start within it.
-/
theorem infix_of_infix_append
    {c : Char}
    {word front back : List Char}
    (hFront : c ∉ front)
    (hWord : c :: word <:+: front ++ back) :
    c :: word <:+: back := by
  induction front with
  | nil => exact hWord
  | cons d rest ih =>
    rw [List.mem_cons, not_or] at hFront
    rcases List.infix_cons_iff.mp hWord with hFirst | hLater
    · exact absurd (List.cons_prefix_cons.mp hFirst).1 hFront.1
    · exact ih hFront.2 hLater

section

variable {root : List Char}

/-
  What an expanded text starts with, up to a slash, stands
  there already before a root is put in.
-/
theorem prefix_of_prefix_expandChars
    (hRoot : root.head? = some '/')
    {word text : List Char}
    (hWord : '/' ∉ word)
    (hStart : word <+: expandChars root text) :
    word <+: text := by
  induction text using expandChars_induction generalizing word with
  | nil => exact hStart
  | marked rest =>
    cases word with
    | nil => exact List.nil_prefix
    | cons c more =>
      rcases List.head?_eq_some_iff.mp hRoot with ⟨behind, rfl⟩
      rw [expandChars_mark, List.cons_append] at hStart
      have hSlash : c = '/' := (List.cons_prefix_cons.mp hStart).1
      exact absurd (hSlash ▸ List.mem_cons_self) hWord
  | cons d rest hMark ih =>
    cases word with
    | nil => exact List.nil_prefix
    | cons c more =>
      rw [expandChars_cons root hMark] at hStart
      obtain ⟨hChar, hMore⟩ := List.cons_prefix_cons.mp hStart
      have hLater : '/' ∉ more :=
        fun hIn => hWord (List.mem_cons_of_mem _ hIn)
      exact List.cons_prefix_cons.mpr ⟨hChar, ih hLater hMore⟩

/-
  By induction on the text.  A placeholder of the result would
  start in front of a root, in the text itself, and reach it
  no sooner than it ends.
-/
theorem not_mark_infix_expandChars
    (hRoot : root.head? = some '/')
    (hBrace : '\x7b' ∉ root)
    (text : List Char) :
    ¬ mark.toList <:+: expandChars root text := by
  induction text using expandChars_induction with
  | nil =>
    show ¬ mark.toList <:+: []
    decide
  | marked rest ih =>
    rw [expandChars_mark]
    exact fun hInside => ih (infix_of_infix_append hBrace hInside)
  | cons c rest hMark ih =>
    intro hInside
    rw [expandChars_cons root hMark] at hInside
    rcases List.infix_cons_iff.mp hInside with hFirst | hLater
    · have hSlash : '/' ∉ mark.toList := by decide
      rw [← expandChars_cons root hMark] at hFirst
      exact hMark (prefix_of_prefix_expandChars hRoot hSlash hFirst)
    · exact ih hLater

end

end Placeholder

------------------------------------------------------------
-- Absolute Paths As A Reader Sees Them
------------------------------------------------------------

namespace RawByte

section

variable {text : String}

theorem isAbsolute_hold
    (hAbsolute : Path.isAbsolute text = true) :
    Path.isAbsolute (hold text) = true := by
  rcases Path.isAbsolute_iff.mp hAbsolute with ⟨rest, hChars⟩
  refine Path.isAbsolute_iff.mpr ⟨rest.flatMap holdChar, ?_⟩
  rw [toList_hold, hChars]
  rfl

theorem isAbsolute_shown
    (hAbsolute : Path.isAbsolute text = true) :
    Path.isAbsolute (shown text) = true := by
  unfold shown
  split
  · exact hAbsolute
  · rcases Path.isAbsolute_iff.mp hAbsolute with ⟨rest, hChars⟩
    have hBytes : encode text = 0x2F :: rest.flatMap charBytes := by
      rw [encode_eq, hChars]
      rfl
    have hSlash :
        Utf8.takeChar 0x2F (rest.flatMap charBytes) =
          (some '/', rest.flatMap charBytes) :=
      rfl
    rw [Path.isAbsolute_iff, hBytes, Utf8.decodeLossy, Utf8.readChars,
      hSlash, String.toList_ofList]
    exact ⟨_, rfl⟩

/- An absolute path is seen as an absolute path. -/
theorem isAbsolute_mended
    (hAbsolute : Path.isAbsolute text = true) :
    Path.isAbsolute (mended text) = true :=
  isAbsolute_hold (isAbsolute_shown hAbsolute)

end

end RawByte

namespace Placeholder

/-
  A root without a brace leaves no placeholder in a text, for
  a reader sees no brace in it either.
-/
theorem not_mentions_expand
    {root : Path}
    (hAbsolute : root.isAbsolute = true)
    (hBrace : '\x7b' ∉ root.toList)
    (text : String) :
    ¬ Mentions (expand text root) := by
  have hMended := RawByte.isAbsolute_mended hAbsolute
  have hRoot : (RawByte.mended root).toList.head? = some '/' := by
    rcases Path.isAbsolute_iff.mp hMended with ⟨rest, hChars⟩
    rw [hChars, List.head?_cons]
  have hFree : '\x7b' ∉ (RawByte.mended root).toList :=
    fun hIn => hBrace (RawByte.mem_of_mem_mended (by decide) hIn)
  have hNone := not_mark_infix_expandChars hRoot hFree text.toList
  simpa [Mentions, expand] using hNone

------------------------------------------------------------
-- Substitution
------------------------------------------------------------

/-
  A text is put in place of the source root.  What stands
  before and behind a placeholder is expanded by itself, and
  the text is put between the pieces of any other as it is,
  even if it mentions the placeholder itself.
-/
structure PutBetween (root : Path) (text : String) : Prop where
  around :
    ∀ before after,
      expand (before ++ mark ++ after) root =
        expand before root ++ text ++ expand after root
  between :
    ∀ pieces : List String,
      (∀ piece ∈ pieces, ¬ Mentions piece) →
      expand (Text.joinWith mark pieces) root =
        Text.joinWith text pieces

/- What a reader sees of the source root is put in. -/
theorem putBetween_mended
    (root : Path) :
    PutBetween root (RawByte.mended root) where
  around := expand_append root
  between := fun _ => expand_joinWith root

/- No two texts are put in: the placeholder alone tells them apart. -/
theorem PutBetween.unique
    {root : Path}
    {first second : String}
    (hFirst : PutBetween root first)
    (hSecond : PutBetween root second) :
    first = second := by
  have hSame :=
    (hFirst.around "" "").symm.trans (hSecond.around "" "")
  simpa [expand, expandChars] using hSame

/-
  A text without a placeholder stays as it is.  Any other is
  pieces without one, and between these comes what a reader
  sees of the root; so the root itself comes there exactly if
  it is a text.  An absolute root without a brace leaves no
  placeholder in any text.
-/
theorem root_put_between_pieces_iff
    (root : Path) :
    (∀ text, ¬ Mentions text → expand text root = text) ∧
    (∀ text, ∃ pieces : List String,
      pieces ≠ [] ∧
      (∀ piece ∈ pieces, ¬ Mentions piece) ∧
      Text.joinWith mark pieces = text) ∧
    PutBetween root (RawByte.mended root) ∧
    (PutBetween root root ↔ ∃ text, root = RawByte.hold text) ∧
    (root.isAbsolute = true →
      '\x7b' ∉ root.toList →
      ∀ text, ¬ Mentions (expand text root)) := by
  have hMended := putBetween_mended root
  exact
    ⟨fun text hFree => expand_of_free root hFree, exists_pieces, hMended,
      RawByte.self_iff_of_unique hMended fun _ => hMended.unique,
      not_mentions_expand⟩

/- Halves of a placeholder do not meet around the root. -/
theorem halves_kept_apart_by_root :
    Path.isAbsolute "/r" = true ∧
    '\x7b' ∉ "/r".toList ∧
    "/r" = RawByte.hold "/r" ∧
    expand "\x7bro\x7broot\x7dot\x7d" "/r" = "\x7bro/rot\x7d" ∧
    ¬ Mentions "\x7bro/rot\x7d" := by
  have hAbsolute : Path.isAbsolute "/r" = true := by decide
  have hBrace : '\x7b' ∉ "/r".toList := by decide
  have hText : "/r" = RawByte.hold "/r" := by cbv
  rcases root_put_between_pieces_iff "/r" with
    ⟨hKept, -, -, hPut, hNone⟩
  have hExpanded :
      expand "\x7bro\x7broot\x7dot\x7d" "/r" = "\x7bro/rot\x7d" := by
    calc expand ("\x7bro" ++ mark ++ "ot\x7d") "/r"
      _ = expand "\x7bro" "/r" ++ "/r" ++ expand "ot\x7d" "/r" :=
        (hPut.mpr ⟨"/r", hText⟩).around _ _
      _ = "\x7bro" ++ "/r" ++ "ot\x7d" := by
        rw [hKept "\x7bro" (by decide), hKept "ot\x7d" (by decide)]
  refine ⟨hAbsolute, hBrace, hText, hExpanded, ?_⟩
  rw [← hExpanded]
  exact hNone hAbsolute hBrace _

/- A faulty root is not put in as it is. -/
theorem faulty_root_put_in_mended :
    Path.isAbsolute faultyRoot = true ∧
    ¬ Mentions "/lib" ∧
    expand "\x7broot\x7d/lib" faultyRoot = "/a\uFFFD/lib" ∧
    expand "\x7broot\x7d/lib" faultyRoot ≠
      expand "" faultyRoot ++ faultyRoot ++ expand "/lib" faultyRoot := by
  have hFree : ¬ Mentions "/lib" := by decide
  have hRest : expand "/lib" faultyRoot = "/lib" :=
    expand_of_free faultyRoot hFree
  have hNothing : expand "" faultyRoot = "" :=
    expand_of_free faultyRoot (by decide)
  have hExpanded :
      expand "\x7broot\x7d/lib" faultyRoot = "/a\uFFFD/lib" := by
    calc expand ("" ++ mark ++ "/lib") faultyRoot
      _ = expand "" faultyRoot ++ RawByte.mended faultyRoot ++
            expand "/lib" faultyRoot :=
        expand_append faultyRoot "" "/lib"
      _ = "/a\uFFFD/lib" := by
        rw [hNothing, mended_faultyRoot, hRest]
        decide
  have hApart :
      ("/a\uFFFD/lib" == "" ++ faultyRoot ++ "/lib") = false := by
    cbv
  refine ⟨by cbv, hFree, hExpanded, ?_⟩
  rw [hExpanded, hNothing, hRest]
  exact beq_eq_false_iff_ne.mp hApart

/- A root that mentions the placeholder is put in as it is. -/
example :
    expand "\x7broot\x7d/x\x7broot\x7d" "/\x7broot\x7d" =
      "/\x7broot\x7d/x/\x7broot\x7d" := by
  cbv

end Placeholder

end TreeLint
