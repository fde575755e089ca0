import Mathlib.Data.List.Induction
import TreeLint.Path.Extension
import TreeLint.Proofs.Path.Canonical
import TreeLint.Proofs.Path.Joined

/-
  The extension of a path is that of its last part.

  Key definitions include:
    * `Path.EndsAt`

  Key theorems include:
    * `Path.endsAt_iff`
    * `Path.EndsAt.unique`
    * `Path.cutLastDot_eq_some_iff`
    * `Path.extension?_eq_some_iff`
    * `Path.exists_hasExtension_iff`
    * `Path.extension_read_off_last_part`

  What a path ends at is said without cutting it: a part stands
  alone or behind a slash, and slashes and dots behind it lead
  nowhere else.  An extension is what stands in this part
  behind its last dot, if something stands before the dot.
-/

------------------------------------------------------------
-- The Last Part
------------------------------------------------------------

namespace TreeLint

namespace Path

/-
  The part that a path ends at: a name or a step up.  What
  stands before it counts for nothing, and neither do slashes
  and single dots behind it.
-/
inductive EndsAt : Path → String → Prop where
  | alone
      {part : String}
      (hPart : IsStep part) :
      EndsAt part part
  | behind
      {part : String}
      (directory : Path)
      (hPart : IsStep part) :
      EndsAt (directory ++ "/" ++ part) part
  | slash
      {p : Path}
      {part : String}
      (hEnd : EndsAt p part) :
      EndsAt (p ++ "/") part
  | dot
      {p : Path}
      {part : String}
      (hEnd : EndsAt p part) :
      EndsAt (p ++ "/.") part

theorem EndsAt.isStep
    {p : Path}
    {part : String}
    (hEnd : EndsAt p part) :
    IsStep part := by
  induction hEnd with
  | alone hPart => exact hPart
  | behind directory hPart => exact hPart
  | slash hEnd ih => exact ih
  | dot hEnd ih => exact ih

theorem steps_append_slash
    (p q : Path) :
    steps (p ++ "/" ++ q) = p.steps ++ q.steps := by
  unfold steps
  rw [segments_append_slash, List.filter_append]

theorem IsStep.steps
    {part : String}
    (hPart : IsStep part) :
    Path.steps part = [part] := by
  have hSegments : segments part = [part] := splitAt_of_not_mem hPart.2
  unfold Path.steps
  rw [hSegments, List.filter_cons_of_pos (by simp [hPart.1]),
    List.filter_nil]

/- By induction on what stands behind the part. -/
theorem EndsAt.getLast?_steps
    {p : Path}
    {part : String}
    (hEnd : EndsAt p part) :
    p.steps.getLast? = some part := by
  have hIdle : Path.steps "" = [] ∧ Path.steps "." = [] := by decide
  induction hEnd with
  | alone hPart => rw [hPart.steps, List.getLast?_singleton]
  | behind directory hPart =>
    rw [steps_append_slash, hPart.steps, List.getLast?_concat]
  | @slash p part hEnd ih =>
    have hSteps := steps_append_slash p ""
    rw [String.append_empty, hIdle.1, List.append_nil] at hSteps
    rw [hSteps, ih]
  | @dot p part hEnd ih =>
    have hSteps := steps_append_slash p "."
    rw [String.append_assoc, hIdle.2, List.append_nil] at hSteps
    rw [← ih, ← hSteps]
    rfl

theorem joinWith_concat
    {texts : List String}
    (hSome : texts ≠ [])
    (last : String) :
    Text.joinWith "/" (texts ++ [last]) =
      Text.joinWith "/" texts ++ "/" ++ last := by
  unfold Text.joinWith
  rw [String.intercalate_append_of_ne_nil hSome (List.cons_ne_nil _ _),
    String.intercalate_singleton]

/-
  Segments that are joined end at the last one that leads
  somewhere.  By induction on the segments from the last one
  to the first: those that lead nowhere are passed over.
-/
theorem endsAt_joinWith
    {segments : List String}
    {part : String}
    (hFree : ∀ segment ∈ segments, '/' ∉ segment.toList)
    (hLast :
      (segments.filter (fun segment => !isIdle segment)).getLast? =
        some part) :
    EndsAt (Text.joinWith "/" segments) part := by
  induction segments using List.reverseRecOn with
  | nil => cases hLast
  | append_singleton front last ih =>
    have hFront : ∀ segment ∈ front, '/' ∉ segment.toList :=
      fun segment hSegment => hFree segment (List.mem_append_left _ hSegment)
    rw [List.filter_append] at hLast
    cases hIdle : isIdle last with
    | true =>
      rw [List.filter_cons_of_neg (by simp [hIdle]), List.filter_nil,
        List.append_nil] at hLast
      have hSome : front ≠ [] := by
        rintro rfl
        cases hLast
      have hEnd := ih hFront hLast
      rw [joinWith_concat hSome]
      have hCases : last = "" ∨ last = "." := by
        simpa [isIdle, current] using hIdle
      rcases hCases with rfl | rfl
      · rw [String.append_empty]
        exact hEnd.slash
      · rw [String.append_assoc]
        exact hEnd.dot
    | false =>
      rw [List.filter_cons_of_pos (by simp [hIdle]), List.filter_nil,
        List.getLast?_concat] at hLast
      obtain rfl := Option.some.inj hLast
      have hPart : IsStep last := ⟨hIdle, hFree last (by simp)⟩
      by_cases hSome : front = []
      · subst hSome
        simpa [Text.joinWith] using EndsAt.alone hPart
      · rw [joinWith_concat hSome]
        exact .behind _ hPart

/- A path ends at its last step. -/
theorem endsAt_iff
    {p : Path}
    {part : String} :
    EndsAt p part ↔ p.steps.getLast? = some part := by
  constructor
  · exact EndsAt.getLast?_steps
  · intro hLast
    have hEnd :=
      endsAt_joinWith
        (fun segment hSegment => not_slash_of_mem_segments hSegment) hLast
    rwa [joinWith_segments] at hEnd

theorem EndsAt.unique
    {p : Path}
    {part other : String}
    (hPart : EndsAt p part)
    (hOther : EndsAt p other) :
    part = other := by
  rw [endsAt_iff] at hPart hOther
  exact Option.some.inj (hPart.symm.trans hOther)

/- The file name is the last part, unless that is a step up. -/
theorem fileName?_eq_some_iff
    {p : Path}
    {name : String} :
    p.fileName? = some name ↔ EndsAt p name ∧ name ≠ parent := by
  have hLast :
      (p.segments.filter (fun s => !isIdle s)).getLast? =
        p.steps.getLast? :=
    rfl
  rw [endsAt_iff]
  unfold fileName?
  rw [hLast]
  cases p.steps.getLast? with
  | none => simp
  | some part =>
    by_cases hParent : part = parent
    · subst hParent
      have hUp :
          ¬ (some parent = some name ∧ name ≠ parent) :=
        fun hName => hName.2 (Option.some.inj hName.1).symm
      simpa using hUp
    · simp only [beq_eq_false_iff_ne.mpr hParent, Bool.false_eq_true,
        if_false, Option.some.injEq]
      constructor
      · rintro rfl
        exact ⟨rfl, hParent⟩
      · exact fun hName => hName.1

------------------------------------------------------------
-- The Last Dot
------------------------------------------------------------

theorem cutLastDot_eq_none_iff
    {chars : List Char} :
    cutLastDot chars = none ↔ '.' ∉ chars := by
  induction chars with
  | nil => simp [cutLastDot]
  | cons c rest ih =>
    rw [cutLastDot, List.mem_cons, not_or, ← ih]
    cases cutLastDot rest with
    | some cut => simp
    | none =>
      by_cases hDot : c = '.'
      · simp [hDot]
      · simp [hDot, Ne.symm hDot]

/- A text is cut at a dot that no other dot follows. -/
theorem cutLastDot_append_dot
    {after : List Char}
    (before : List Char)
    (hFree : '.' ∉ after) :
    cutLastDot (before ++ '.' :: after) = some (before, after) := by
  induction before with
  | nil =>
    rw [List.nil_append, cutLastDot, cutLastDot_eq_none_iff.mpr hFree]
    rfl
  | cons c rest ih => rw [List.cons_append, cutLastDot, ih]

/- By induction on the text: a dot further on comes first. -/
theorem cutLastDot_eq_some_iff
    {chars before after : List Char} :
    cutLastDot chars = some (before, after) ↔
      chars = before ++ '.' :: after ∧ '.' ∉ after := by
  constructor
  · intro hCut
    induction chars generalizing before with
    | nil => cases hCut
    | cons c rest ih =>
      rw [cutLastDot] at hCut
      cases hRest : cutLastDot rest with
      | some cut =>
        rcases cut with ⟨front, behind⟩
        rw [hRest] at hCut
        cases hCut
        obtain ⟨rfl, hFree⟩ := ih hRest
        exact ⟨rfl, hFree⟩
      | none =>
        have hFree := cutLastDot_eq_none_iff.mp hRest
        rw [hRest] at hCut
        by_cases hDot : c = '.'
        · simp only [hDot, beq_self_eq_true, if_true] at hCut
          cases hCut
          exact ⟨congrArg (· :: after) hDot, hFree⟩
        · simp [hDot] at hCut
  · rintro ⟨rfl, hFree⟩
    exact cutLastDot_append_dot before hFree

------------------------------------------------------------
-- Extensions
------------------------------------------------------------

/-
  A name with an extension: some text, a dot, and behind it
  the extension, which holds no other dot.
-/
theorem nameExtension?_eq_some_iff
    {name extension : String} :
    nameExtension? name = some extension ↔
      '.' ∉ extension.toList ∧
      ∃ stem, stem ≠ "" ∧ name = stem ++ "." ++ extension := by
  constructor
  · intro hSome
    unfold nameExtension? at hSome
    split at hSome
    · next c front after hCut =>
      cases hSome
      obtain ⟨hName, hFree⟩ := cutLastDot_eq_some_iff.mp hCut
      refine ⟨by simpa using hFree, String.ofList (c :: front), ?_, ?_⟩
      · simp
      · rw [← String.toList_inj, hName]
        simp
    · cases hSome
  · rintro ⟨hFree, stem, hStem, rfl⟩
    have hCut :
        cutLastDot (stem ++ "." ++ extension).toList =
          some (stem.toList, extension.toList) := by
      rw [cutLastDot_eq_some_iff]
      exact ⟨by simp, hFree⟩
    unfold nameExtension?
    rw [hCut]
    cases hChars : stem.toList with
    | nil => exact absurd (String.toList_eq_nil_iff.mp hChars) hStem
    | cons c rest => simp

theorem extension?_eq_some_iff
    {p : Path}
    {extension : String} :
    p.extension? = some extension ↔
      '.' ∉ extension.toList ∧
      ∃ stem,
        stem ≠ "" ∧
        EndsAt p (stem ++ "." ++ extension) ∧
        stem ++ "." ++ extension ≠ parent := by
  unfold extension?
  rw [Option.bind_eq_some_iff]
  constructor
  · rintro ⟨name, hName, hExtension⟩
    obtain ⟨hFree, stem, hStem, rfl⟩ :=
      nameExtension?_eq_some_iff.mp hExtension
    exact ⟨hFree, stem, hStem, fileName?_eq_some_iff.mp hName⟩
  · rintro ⟨hFree, stem, hStem, hName⟩
    exact
      ⟨_, fileName?_eq_some_iff.mpr hName,
        nameExtension?_eq_some_iff.mpr ⟨hFree, stem, hStem, rfl⟩⟩

theorem hasExtension_eq_true_iff
    {p : Path}
    {extensions : List String} :
    p.hasExtension extensions = true ↔
      ∃ extension ∈ extensions, p.extension? = some extension := by
  unfold hasExtension
  cases p.extension? with
  | none => simp
  | some found => simp

/- An extension stands in one part and behind its last dot. -/
theorem not_mem_of_extension?_eq_some
    {p : Path}
    {extension : String}
    (hExtension : p.extension? = some extension) :
    '.' ∉ extension.toList ∧ '/' ∉ extension.toList := by
  obtain ⟨hDot, stem, -, hEnd, -⟩ :=
    extension?_eq_some_iff.mp hExtension
  refine ⟨hDot, fun hSlash => hEnd.isStep.2 ?_⟩
  simp [hSlash]

/- Behind a letter and a dot, a text without either is an extension. -/
theorem extension?_of_not_mem
    {extension : String}
    (hDot : '.' ∉ extension.toList)
    (hSlash : '/' ∉ extension.toList) :
    extension? ("x" ++ "." ++ extension) = some extension := by
  have hText :
      ("x" ++ "." ++ extension).toList = 'x' :: '.' :: extension.toList := by
    simp
  have hNe :
      ∀ other : String, other.toList.head? ≠ some 'x' →
        "x" ++ "." ++ extension ≠ other := by
    rintro other hHead rfl
    simp at hHead
  have hName : IsStep ("x" ++ "." ++ extension) := by
    constructor
    · unfold isIdle
      rw [isEmpty_eq_false (hNe "" (by decide)),
        beq_eq_false_iff_ne.mpr (hNe current (by decide))]
      rfl
    · rw [hText]
      simpa using hSlash
  rw [extension?_eq_some_iff]
  exact
    ⟨hDot, "x", by decide, .alone hName, hNe parent (by decide)⟩

/- Some path has an extension exactly if it holds no dot and no slash. -/
theorem exists_hasExtension_iff
    {extension : String} :
    (∃ p : Path, p.hasExtension [extension] = true) ↔
      '.' ∉ extension.toList ∧ '/' ∉ extension.toList := by
  constructor
  · rintro ⟨p, hHas⟩
    obtain ⟨found, hMem, hFound⟩ := hasExtension_eq_true_iff.mp hHas
    obtain rfl := List.mem_singleton.mp hMem
    exact not_mem_of_extension?_eq_some hFound
  · rintro ⟨hDot, hSlash⟩
    refine ⟨"x" ++ "." ++ extension, hasExtension_eq_true_iff.mpr ?_⟩
    exact
      ⟨extension, List.mem_singleton_self _,
        extension?_of_not_mem hDot hSlash⟩

------------------------------------------------------------
-- What An Extension Is Read Off
------------------------------------------------------------

/-
  A path has one of some extensions exactly if it ends at a
  name, and not at a step up, in which one of them stands
  behind the last dot and some text before it.  Paths that end
  at the same part have the same extensions, whatever the
  directories are.  No path has an extension with a dot or a
  slash in it.
-/
theorem extension_read_off_last_part
    (p : Path)
    (extensions : List String) :
    (p.hasExtension extensions = true ↔
      ∃ stem extension,
        EndsAt p (stem ++ "." ++ extension) ∧
        stem ++ "." ++ extension ≠ parent ∧
        stem ≠ "" ∧
        '.' ∉ extension.toList ∧
        extension ∈ extensions) ∧
    (∀ (q : Path) (part : String),
      EndsAt p part →
      EndsAt q part →
      q.hasExtension extensions = p.hasExtension extensions) ∧
    (∀ extension : String,
      '.' ∈ extension.toList ∨ '/' ∈ extension.toList →
      p.hasExtension [extension] = false) := by
  refine ⟨?_, ?_, ?_⟩
  · rw [hasExtension_eq_true_iff]
    constructor
    · rintro ⟨extension, hMem, hExtension⟩
      obtain ⟨hFree, stem, hStem, hEnd, hName⟩ :=
        extension?_eq_some_iff.mp hExtension
      exact ⟨stem, extension, hEnd, hName, hStem, hFree, hMem⟩
    · rintro ⟨stem, extension, hEnd, hName, hStem, hFree, hMem⟩
      exact
        ⟨extension, hMem,
          extension?_eq_some_iff.mpr ⟨hFree, stem, hStem, hEnd, hName⟩⟩
  · intro q part hPart hOther
    have hName : q.fileName? = p.fileName? := by
      apply Option.ext
      intro name
      rw [fileName?_eq_some_iff, fileName?_eq_some_iff,
        endsAt_iff, endsAt_iff, endsAt_iff.mp hPart,
        endsAt_iff.mp hOther]
    unfold hasExtension extension?
    rw [hName]
  · intro extension hHolds
    rw [Bool.eq_false_iff]
    intro hHas
    obtain ⟨hDot, hSlash⟩ := exists_hasExtension_iff.mp ⟨p, hHas⟩
    exact hHolds.elim hDot hSlash

/-
  Dots and slashes around a name are not part of it, and dots
  in front of its last dot belong to its stem.
-/
theorem extension_read_behind_directories :
    EndsAt "a.b/..c.h/./" ("..c" ++ "." ++ "h") ∧
    hasExtension "a.b/..c.h/./" ["cc", "h"] = true ∧
    hasExtension "..c.h" ["cc", "h"] = true ∧
    hasExtension "a.b/..c.h/./" ["c.h"] = false := by
  have hPart : IsStep "..c.h" := by
    constructor <;> decide
  have hEnd : EndsAt "a.b/..c.h/./" "..c.h" :=
    .slash (.dot (.behind "a.b" hPart))
  rcases extension_read_off_last_part "a.b/..c.h/./" ["cc", "h"] with
    ⟨hIff, hSame, hDead⟩
  have hHas : hasExtension "a.b/..c.h/./" ["cc", "h"] = true :=
    hIff.mpr
      ⟨"..c", "h", hEnd, by decide, by decide, by decide, by decide⟩
  refine ⟨hEnd, hHas, ?_, hDead "c.h" (by decide)⟩
  rw [hSame "..c.h" "..c.h" hEnd (.alone hPart), hHas]

end Path

end TreeLint
