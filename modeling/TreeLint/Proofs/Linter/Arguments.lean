import Mathlib
import TreeLint.Linter.Placeholder
import TreeLint.Proofs.Text.HeldBytes

/-
  Arguments that mention the source root.

  Key definitions include:
    * `Placeholder.mark`
    * `Placeholder.Mentions`
    * `Placeholder.OpensPath`
    * `Placeholder.PutInArguments`

  Key theorems include:
    * `Placeholder.splitChars?_eq_some_iff`
    * `Placeholder.splitChars?_eq_none_iff`
    * `Placeholder.expandChars_append`
    * `Placeholder.snd_cutOption_eq_nil_iff`
    * `Placeholder.root_put_in_arguments_iff`

  A placeholder cannot overlap another one, since the brace it
  starts with occurs in it only once.  So a text is cut at its
  first placeholder in one way, whatever stands around it.
  What is put there is what a reader sees of the source root:
  the root itself, if it is a text.
-/

------------------------------------------------------------
-- The Placeholder
------------------------------------------------------------

namespace TreeLint

namespace Placeholder

/- The text that stands for the source root. -/
def mark : String := "\x7broot\x7d"

/- A text with the placeholder somewhere in it. -/
def Mentions (text : String) : Prop :=
  mark.toList <:+: text.toList

instance : DecidablePred Mentions :=
  fun text => inferInstanceAs (Decidable (mark.toList <:+: text.toList))

/- What starts in the middle of a placeholder is none. -/
theorem not_mark_prefix_of_suffix
    {front behind after : List Char}
    (hFront : front ≠ [])
    (hBehind : behind ≠ [])
    (hMark : front ++ behind = mark.toList) :
    ¬ behind <+: mark.toList ++ after := by
  rcases List.exists_cons_of_ne_nil hFront with ⟨c, rest, rfl⟩
  rcases List.exists_cons_of_ne_nil hBehind with ⟨d, others, rfl⟩
  have hBrace : '\x7b' ∉ mark.toList.tail := by decide
  intro hPrefix
  have hFirst : d = '\x7b' := (List.cons_prefix_cons.mp hPrefix).1
  apply hBrace
  rw [← hMark, hFirst]
  simp

/-
  Where a text that does not start with a placeholder is
  followed by one, it does not start with one then either.
-/
theorem not_mark_prefix_append
    {c : Char}
    {before after : List Char}
    (hMark : ¬ mark.toList <+: c :: before) :
    ¬ mark.toList <+: c :: (before ++ (mark.toList ++ after)) := by
  intro hLonger
  have hWhole :
      mark.toList <+: (c :: before) ++ (mark.toList ++ after) :=
    hLonger
  rcases List.prefix_or_prefix_of_prefix hWhole
      (List.prefix_append (c :: before) _) with
    hInside | ⟨behind, hAcross⟩
  · exact hMark hInside
  · have hBehind : behind ≠ [] := by
      rintro rfl
      rw [List.append_nil] at hAcross
      exact hMark (hAcross ▸ List.prefix_rfl)
    have hRest : behind <+: mark.toList ++ after := by
      apply (List.prefix_append_right_inj (c :: before)).mp
      rwa [hAcross]
    exact
      not_mark_prefix_of_suffix (List.cons_ne_nil c before) hBehind
        hAcross hRest

theorem not_mark_prefix_of_free
    {c : Char}
    {before after : List Char}
    (hFree : ¬ mark.toList <:+: c :: before) :
    ¬ mark.toList <+: c :: (before ++ (mark.toList ++ after)) :=
  not_mark_prefix_append fun hFirst => hFree hFirst.isInfix

------------------------------------------------------------
-- The First Placeholder
------------------------------------------------------------

section

variable {c : Char} {rest : List Char}

theorem splitChars?_mark
    (rest : List Char) :
    splitChars? (mark.toList ++ rest) = some ([], rest) :=
  rfl

theorem splitChars?_cons
    (hMark : ¬ mark.toList <+: c :: rest) :
    splitChars? (c :: rest) =
      (splitChars? rest).map
        (fun (before, after) => (c :: before, after)) := by
  rw [splitChars?]
  rintro others rfl rfl
  exact hMark (List.prefix_append mark.toList others)

theorem expandChars_mark
    (root rest : List Char) :
    expandChars root (mark.toList ++ rest) =
      root ++ expandChars root rest :=
  rfl

theorem expandChars_cons
    (root : List Char)
    (hMark : ¬ mark.toList <+: c :: rest) :
    expandChars root (c :: rest) = c :: expandChars root rest := by
  rw [expandChars]
  rintro others rfl rfl
  exact hMark (List.prefix_append mark.toList others)

end

/- A text is cut at the only placeholder with none before it. -/
theorem splitChars?_eq_some_iff
    {text before after : List Char} :
    splitChars? text = some (before, after) ↔
      text = before ++ (mark.toList ++ after) ∧
        ¬ mark.toList <:+: before := by
  constructor
  · intro hSplit
    induction text generalizing before with
    | nil => cases hSplit
    | cons c rest ih =>
      by_cases hMark : mark.toList <+: c :: rest
      · rcases hMark with ⟨others, hOthers⟩
        rw [← hOthers, splitChars?_mark] at hSplit
        cases hSplit
        exact ⟨hOthers.symm, by decide⟩
      · rw [splitChars?_cons hMark] at hSplit
        rcases Option.map_eq_some_iff.mp hSplit with
          ⟨⟨front, behind⟩, hRest, hCut⟩
        cases hCut
        rcases ih hRest with ⟨rfl, hFree⟩
        refine ⟨rfl, ?_⟩
        intro hInside
        rcases List.infix_cons_iff.mp hInside with hFirst | hLater
        · exact hMark (hFirst.trans (List.prefix_append _ _))
        · exact hFree hLater
  · rintro ⟨rfl, hFree⟩
    induction before with
    | nil => exact splitChars?_mark after
    | cons c rest ih =>
      have hRest : ¬ mark.toList <:+: rest :=
        fun hInside => hFree (List.infix_cons hInside)
      rw [List.cons_append,
        splitChars?_cons (not_mark_prefix_of_free hFree), ih hRest]
      rfl

theorem splitChars?_eq_none_iff
    {text : List Char} :
    splitChars? text = none ↔ ¬ mark.toList <:+: text := by
  induction text with
  | nil => simp only [splitChars?, true_iff]; decide
  | cons c rest ih =>
    by_cases hMark : mark.toList <+: c :: rest
    · have hInside : mark.toList <:+: c :: rest := hMark.isInfix
      rcases hMark with ⟨others, hOthers⟩
      rw [← hOthers] at hInside ⊢
      simp [splitChars?_mark, hInside]
    · rw [splitChars?_cons hMark, Option.map_eq_none_iff, ih,
        List.infix_cons_iff]
      simp [hMark]

------------------------------------------------------------
-- Expanded Texts
------------------------------------------------------------

/-
  A text is read from left to right, where it starts with a
  placeholder or with a character of its own.
-/
theorem expandChars_induction
    {motive : List Char → Prop}
    (nil : motive [])
    (marked : ∀ rest, motive rest → motive (mark.toList ++ rest))
    (cons :
      ∀ c rest, ¬ mark.toList <+: c :: rest → motive rest →
        motive (c :: rest))
    (text : List Char) :
    motive text := by
  fun_induction expandChars [] text with
  | case1 rest ih => exact marked rest ih
  | case2 c rest hOther ih =>
    refine cons c rest ?_ ih
    rintro ⟨others, hOthers⟩
    obtain ⟨hChar, hRest⟩ := List.cons.inj hOthers
    exact hOther others hChar.symm hRest.symm
  | case3 => exact nil

/- A text without a placeholder stays as it is. -/
theorem expandChars_of_free
    (root : List Char)
    {text : List Char}
    (hFree : ¬ mark.toList <:+: text) :
    expandChars root text = text := by
  induction text using expandChars_induction with
  | nil => rfl
  | marked rest => exact absurd (List.prefix_append _ _).isInfix hFree
  | cons c rest hMark ih =>
    rw [expandChars_cons root hMark,
      ih fun hInside => hFree (List.infix_cons hInside)]

/- What stands before a placeholder is expanded by itself. -/
theorem expandChars_append
    (root before after : List Char) :
    expandChars root (before ++ (mark.toList ++ after)) =
      expandChars root before ++ (root ++ expandChars root after) := by
  induction before using expandChars_induction with
  | nil => exact expandChars_mark root after
  | marked rest ih =>
    rw [List.append_assoc, expandChars_mark, expandChars_mark, ih,
      List.append_assoc]
  | cons c rest hMark ih =>
    rw [List.cons_append,
      expandChars_cons root (not_mark_prefix_append hMark), ih,
      expandChars_cons root hMark, List.cons_append]

/- Up to its first placeholder a text stays as it is. -/
theorem expandChars_append_mark
    (root : List Char)
    {before : List Char}
    (after : List Char)
    (hFree : ¬ mark.toList <:+: before) :
    expandChars root (before ++ (mark.toList ++ after)) =
      before ++ (root ++ expandChars root after) := by
  rw [expandChars_append, expandChars_of_free root hFree]

------------------------------------------------------------
-- Options
------------------------------------------------------------

/- Cutting an option off loses nothing. -/
theorem append_cutOption
    (text : List Char) :
    (cutOption text).1 ++ (cutOption text).2 = text := by
  induction text with
  | nil => rfl
  | cons c rest ih =>
    rw [cutOption]
    split
    · next value hRest =>
      rw [hRest] at ih
      split <;> simpa using ih
    · next option value _ hRest =>
      rw [hRest] at ih
      simpa using ih

/- Nothing is left of a text that is empty or ends an option. -/
theorem snd_cutOption_eq_nil_iff
    (text : List Char) :
    (cutOption text).2 = [] ↔
      text = [] ∨ text.getLast? = some '=' := by
  induction text with
  | nil => simp [cutOption]
  | cons c rest ih =>
    cases rest with
    | nil => by_cases hChar : c = '=' <;> simp [cutOption, hChar]
    | cons d more =>
      have hText := append_cutOption (d :: more)
      rw [List.getLast?_cons_cons, cutOption]
      split
      · next value hRest =>
        -- Where the rest holds no option, all of it is left.
        rw [hRest] at ih hText
        have hValue : value ≠ [] := by
          rintro rfl
          cases hText
        have hLast : (d :: more).getLast? ≠ some '=' :=
          fun hSign => hValue (ih.mpr (.inr hSign))
        split <;> simp [hValue, hLast]
      · next option value hOption hRest =>
        rw [hRest] at ih
        simpa using ih

------------------------------------------------------------
-- Expanded Arguments
------------------------------------------------------------

/- A text behind which a path starts: it is empty or ends an option. -/
def OpensPath (before : String) : Prop :=
  before = "" ∨ ∃ option, before = option ++ "="

theorem opensPath_iff
    {before : String} :
    OpensPath before ↔ (cutOption before.toList).2 = [] := by
  rw [snd_cutOption_eq_nil_iff, OpensPath, String.toList_eq_nil_iff,
    List.getLast?_eq_some_iff]
  constructor
  · rintro (hEmpty | ⟨option, rfl⟩)
    · exact .inl hEmpty
    · exact .inr ⟨option.toList, by simp⟩
  · rintro (hEmpty | ⟨option, hOption⟩)
    · exact .inl hEmpty
    · refine .inr ⟨String.ofList option, ?_⟩
      rw [← String.toList_inj, hOption]
      simp

section

variable {argument before after : String}

/- A text that mentions the root is cut at the first placeholder. -/
theorem exists_first_mark
    (hMark : Mentions argument) :
    ∃ before after,
      argument = before ++ mark ++ after ∧ ¬ Mentions before := by
  cases hSplit : splitChars? argument.toList with
  | none => exact absurd hMark (splitChars?_eq_none_iff.mp hSplit)
  | some cut =>
    rcases cut with ⟨front, behind⟩
    rcases splitChars?_eq_some_iff.mp hSplit with ⟨hText, hFree⟩
    refine ⟨String.ofList front, String.ofList behind, ?_, ?_⟩
    · rw [← String.toList_inj, hText]
      simp
    · simpa [Mentions] using hFree

theorem splitChars?_of_first_mark
    (hArgument : argument = before ++ mark ++ after)
    (hFree : ¬ Mentions before) :
    splitChars? argument.toList = some (before.toList, after.toList) :=
  splitChars?_eq_some_iff.mpr ⟨by simp [hArgument], hFree⟩

/- Up to its first placeholder a text is expanded to itself. -/
theorem expand_of_first_mark
    (root : Path)
    (hArgument : argument = before ++ mark ++ after)
    (hFree : ¬ Mentions before) :
    expand argument root =
      before ++ RawByte.mended root ++ expand after root := by
  have hChars :=
    expandChars_append_mark (RawByte.mended root).toList after.toList
      hFree
  rw [← String.toList_inj]
  simp [expand, hArgument, hChars]

theorem expandArgument_of_free
    (root : Path)
    (hFree : ¬ Mentions argument) :
    expandArgument argument root = argument := by
  unfold expandArgument
  rw [splitChars?_eq_none_iff.mpr hFree]

/- A path that starts with the root is normalized as a whole. -/
theorem expandArgument_of_opensPath
    (root : Path)
    (hArgument : argument = before ++ mark ++ after)
    (hFree : ¬ Mentions before)
    (hOpens : OpensPath before) :
    expandArgument argument root =
      before ++
        Path.normalize (RawByte.mended root ++ expand after root) := by
  have hValue := opensPath_iff.mp hOpens
  have hOption : (cutOption before.toList).1 = before.toList := by
    simpa [hValue] using append_cutOption before.toList
  have hCut : cutOption before.toList = (before.toList, []) :=
    Prod.ext hOption hValue
  unfold expandArgument
  rw [splitChars?_of_first_mark hArgument hFree]
  simp only [hCut, String.ofList_toList]

/- In the middle of a text the root is only inserted. -/
theorem expandArgument_of_not_opensPath
    (root : Path)
    (hArgument : argument = before ++ mark ++ after)
    (hFree : ¬ Mentions before)
    (hInside : ¬ OpensPath before) :
    expandArgument argument root =
      before ++ RawByte.mended root ++ expand after root := by
  unfold expandArgument
  rw [splitChars?_of_first_mark hArgument hFree]
  simp only
  split
  · next option hCut =>
    exact absurd (opensPath_iff.mpr (by rw [hCut])) hInside
  · exact expand_of_first_mark root hArgument hFree

end

------------------------------------------------------------
-- The Root That Is Put In
------------------------------------------------------------

/-
  A text is put in place of the source root in every argument.
  One without a placeholder stays as it is.  Any other is cut
  at its first placeholder, and what stands before it is kept.
  Behind an option, or at the start of the argument, the rest
  is a path and is normalized; anywhere else the text is only
  inserted.
-/
structure PutInArguments (root : Path) (text : String) : Prop where
  kept :
    ∀ argument,
      ¬ Mentions argument → expandArgument argument root = argument
  normalized :
    ∀ before after,
      ¬ Mentions before →
      OpensPath before →
      expandArgument (before ++ mark ++ after) root =
        before ++ Path.normalize (text ++ expand after root)
  inserted :
    ∀ before after,
      ¬ Mentions before →
      ¬ OpensPath before →
      expandArgument (before ++ mark ++ after) root =
        before ++ text ++ expand after root

/- What a reader sees of the source root is put in. -/
theorem putInArguments_mended
    (root : Path) :
    PutInArguments root (RawByte.mended root) where
  kept := fun _ => expandArgument_of_free root
  normalized := fun _ _ => expandArgument_of_opensPath root rfl
  inserted := fun _ _ => expandArgument_of_not_opensPath root rfl

/- No two texts are put in: an argument tells which one it is. -/
theorem PutInArguments.unique
    {root : Path}
    {first second : String}
    (hFirst : PutInArguments root first)
    (hSecond : PutInArguments root second) :
    first = second := by
  have hFree : ¬ Mentions "x" := by decide
  have hInside : ¬ OpensPath "x" := by
    rw [opensPath_iff]
    decide
  have hSame :=
    (hFirst.inserted "x" "" hFree hInside).symm.trans
      (hSecond.inserted "x" "" hFree hInside)
  simpa [expand, expandChars] using hSame

/-
  Every argument that mentions the source root is cut at one
  place, and what a reader sees of the root is put in there.
  So the root itself is put in exactly if it is a text.
-/
theorem root_put_in_arguments_iff
    (root : Path) :
    (∀ argument,
      Mentions argument →
      ∃ before after,
        argument = before ++ mark ++ after ∧ ¬ Mentions before) ∧
    PutInArguments root (RawByte.mended root) ∧
    (PutInArguments root root ↔ ∃ text, root = RawByte.hold text) := by
  have hMended := putInArguments_mended root
  exact
    ⟨fun _ => exists_first_mark, hMended,
      RawByte.self_iff_of_unique hMended fun _ => hMended.unique⟩

/- The path is read behind the last sign before the placeholder. -/
example :
    expandArgument "--define=a=\x7broot\x7d/./b=\x7broot\x7d/.." "/r/s" =
      "--define=a=/r/s/b=/r" := by
  cbv

end Placeholder

/- An absolute path whose last byte is no text. -/
def faultyRoot : Path :=
  RawByte.decode [0x2F, 0x61, 0xFF]

theorem mended_faultyRoot :
    RawByte.mended faultyRoot = "/a\uFFFD" := by
  cbv

namespace Placeholder

/- What an argument names in a faulty root is not what lies there. -/
theorem file_missed_in_faulty_root :
    Path.isAbsolute faultyRoot = true ∧
    ¬ Mentions "--rc=" ∧
    OpensPath "--rc=" ∧
    expandArgument "--rc=\x7broot\x7d/rc" faultyRoot =
      "--rc=/a\uFFFD/rc" ∧
    expandArgument "--rc=\x7broot\x7d/rc" faultyRoot ≠
      "--rc=" ++
        Path.normalize (faultyRoot ++ expand "/rc" faultyRoot) := by
  have hFree : ¬ Mentions "--rc=" := by decide
  have hOpens : OpensPath "--rc=" := .inr ⟨"--rc", rfl⟩
  have hRest : expand "/rc" faultyRoot = "/rc" := by cbv
  have hExpanded :
      expandArgument "--rc=\x7broot\x7d/rc" faultyRoot =
        "--rc=/a\uFFFD/rc" := by
    calc expandArgument ("--rc=" ++ mark ++ "/rc") faultyRoot
      _ = "--rc=" ++
            Path.normalize
              (RawByte.mended faultyRoot ++ expand "/rc" faultyRoot) :=
        expandArgument_of_opensPath faultyRoot rfl hFree hOpens
      _ = "--rc=/a\uFFFD/rc" := by
        rw [mended_faultyRoot, hRest]
        cbv
  have hApart :
      ("--rc=/a\uFFFD/rc" ==
          "--rc=" ++ Path.normalize (faultyRoot ++ "/rc")) =
        false := by
    cbv
  refine ⟨by cbv, hFree, hOpens, hExpanded, ?_⟩
  rw [hExpanded, hRest]
  exact beq_eq_false_iff_ne.mp hApart

end Placeholder

end TreeLint
