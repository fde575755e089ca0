import TreeLint.Proofs.Config.Validity

/-
  Which problem of a configuration is reported.

  Key definitions include:
    * `LinterConfig.FirstProblem`
    * `LinterConfig.SameUpTo`
    * `InvalidLinter.IsFirstOf`
    * `Config.SameUpTo`

  Key theorems include:
    * `LinterConfig.problem?_eq_some_iff`
    * `Config.validate_eq_error_iff`
    * `InvalidLinter.message_injective`
    * `Config.first_problem_reported`

  A report is about the first linter that cannot be run and
  about its first problem, in the order of the checks.  Nothing
  behind that problem is looked at.  The wording of the report
  tells the linter and the problem.
-/

------------------------------------------------------------
-- The First Problem Of A Linter
------------------------------------------------------------

namespace TreeLint

/- A list is cut in one way at the first place of a member. -/
theorem eq_of_append_cons_eq
    {α : Type}
    {a : α}
    {front other back more : List α}
    (hFront : a ∉ front)
    (hOther : a ∉ other)
    (hSame : front ++ a :: back = other ++ a :: more) :
    front = other ∧ back = more := by
  induction front generalizing other with
  | nil =>
    cases other with
    | nil => exact ⟨rfl, (List.cons.inj hSame).2⟩
    | cons b rest =>
      have hHead : a = b := (List.cons.inj hSame).1
      exact absurd (hHead ▸ List.mem_cons_self) hOther
  | cons b rest ih =>
    cases other with
    | nil =>
      have hHead : b = a := (List.cons.inj hSame).1
      exact absurd (hHead ▸ List.mem_cons_self) hFront
    | cons c others =>
      obtain ⟨rfl, hRest⟩ := List.cons.inj hSame
      obtain ⟨rfl, hBack⟩ :=
        ih (fun hIn => hFront (List.mem_cons_of_mem _ hIn))
          (fun hIn => hOther (List.mem_cons_of_mem _ hIn)) hRest
      exact ⟨rfl, hBack⟩

namespace LinterConfig

/-
  The problem that a linter is found to have.  Whatever is
  checked before it is as it should be.
-/
inductive FirstProblem (linter : LinterConfig) : Problem → Prop where
  | emptyCommand
      (hCommand : Text.isBlankText linter.command = true) :
      linter.FirstProblem .emptyCommand
  | noRoots
      (hCommand : Text.isBlankText linter.command = false)
      (hRoots : linter.roots = []) :
      linter.FirstProblem .noRoots
  | noExtensions
      (hCommand : Text.isBlankText linter.command = false)
      (hRoots : linter.roots ≠ [])
      (hExtensions : linter.extensions = []) :
      linter.FirstProblem .noExtensions
  | dottedExtension
      {before behind : List String}
      {rest : String}
      (hCommand : Text.isBlankText linter.command = false)
      (hRoots : linter.roots ≠ [])
      (hExtensions :
        linter.extensions = before ++ ("." ++ rest) :: behind)
      (hBefore : ∀ other ∈ before, ∀ tail, other ≠ "." ++ tail) :
      linter.FirstProblem (.dottedExtension ("." ++ rest))

/- The first extension with a dot in front, and those before it. -/
theorem find?_startsWithDot_eq_some_iff
    {extensions : List String}
    {extension : String} :
    extensions.find? startsWithDot = some extension ↔
      ∃ before rest behind,
        extension = "." ++ rest ∧
        extensions = before ++ ("." ++ rest) :: behind ∧
        ∀ other ∈ before, ∀ tail, other ≠ "." ++ tail := by
  rw [List.find?_eq_some_iff_append, startsWithDot_eq_true_iff]
  simp only [Bool.not_eq_true', ← Bool.not_eq_true,
    startsWithDot_eq_true_iff, not_exists, ne_eq]
  constructor
  · rintro ⟨⟨rest, rfl⟩, before, behind, hSplit, hBefore⟩
    exact ⟨before, rest, behind, rfl, hSplit, hBefore⟩
  · rintro ⟨before, rest, behind, rfl, hSplit, hBefore⟩
    exact ⟨⟨rest, rfl⟩, before, behind, hSplit, hBefore⟩

theorem problem?_eq_some_iff
    {linter : LinterConfig}
    {problem : Problem} :
    linter.problem? = some problem ↔ linter.FirstProblem problem := by
  constructor
  · intro hFound
    unfold problem? at hFound
    split at hFound
    · next hCommand =>
      cases hFound
      exact .emptyCommand hCommand
    · next hCommand =>
      rw [Bool.not_eq_true] at hCommand
      split at hFound
      · next hRoots =>
        cases hFound
        exact .noRoots hCommand (List.isEmpty_iff.mp hRoots)
      · next hRoots =>
        rw [List.isEmpty_iff] at hRoots
        split at hFound
        · next hExtensions =>
          cases hFound
          exact
            .noExtensions hCommand hRoots
              (List.isEmpty_iff.mp hExtensions)
        · obtain ⟨extension, hDotted, rfl⟩ :=
            Option.map_eq_some_iff.mp hFound
          rcases find?_startsWithDot_eq_some_iff.mp hDotted with
            ⟨before, rest, behind, rfl, hSplit, hBefore⟩
          exact .dottedExtension hCommand hRoots hSplit hBefore
  · intro hFirst
    unfold problem?
    cases hFirst with
    | emptyCommand hCommand => rw [if_pos hCommand]
    | noRoots hCommand hRoots => simp [hCommand, hRoots]
    | noExtensions hCommand hRoots hExtensions =>
      simp [hCommand, hRoots, hExtensions]
    | dottedExtension hCommand hRoots hExtensions hBefore =>
      have hDotted :=
        find?_startsWithDot_eq_some_iff.mpr
          ⟨_, _, _, rfl, hExtensions, hBefore⟩
      have hSome : linter.extensions ≠ [] := by simp [hExtensions]
      simp [hCommand, hRoots, hSome, hDotted]

/-
  Whether two linters are the same as far as they are looked
  at until a problem is found.
-/
inductive SameUpTo (linter other : LinterConfig) : Problem → Prop where
  | emptyCommand
      (hCommand : other.command = linter.command) :
      linter.SameUpTo other .emptyCommand
  | noRoots
      (hCommand : other.command = linter.command)
      (hRoots : other.roots = linter.roots) :
      linter.SameUpTo other .noRoots
  | noExtensions
      (hCommand : other.command = linter.command)
      (hRoots : other.roots = linter.roots)
      (hExtensions : other.extensions = linter.extensions) :
      linter.SameUpTo other .noExtensions
  | dottedExtension
      {before behind changed : List String}
      {extension : String}
      (hCommand : other.command = linter.command)
      (hRoots : other.roots = linter.roots)
      (hFirst : extension ∉ before)
      (hExtensions : linter.extensions = before ++ extension :: behind)
      (hChanged : other.extensions = before ++ extension :: changed) :
      linter.SameUpTo other (.dottedExtension extension)

/- What is not looked at does not change the problem. -/
theorem FirstProblem.of_sameUpTo
    {linter other : LinterConfig}
    {problem : Problem}
    (hFirst : linter.FirstProblem problem)
    (hSame : linter.SameUpTo other problem) :
    other.FirstProblem problem := by
  cases hFirst with
  | emptyCommand hBlank =>
    cases hSame with
    | emptyCommand hCommand => exact .emptyCommand (hCommand ▸ hBlank)
  | noRoots hFilled hNone =>
    cases hSame with
    | noRoots hCommand hRoots =>
      exact .noRoots (hCommand ▸ hFilled) (hRoots.trans hNone)
  | noExtensions hFilled hSome hNone =>
    cases hSame with
    | noExtensions hCommand hRoots hExtensions =>
      exact
        .noExtensions (hCommand ▸ hFilled) (hRoots ▸ hSome)
          (hExtensions.trans hNone)
  | @dottedExtension front back rest hFilled hSome hSplit hBefore =>
    cases hSame with
    | dottedExtension hCommand hRoots hOnce hExtensions hChanged =>
      -- Both cuts are at the first place of the extension.
      have hNew : "." ++ rest ∉ front :=
        fun hIn => hBefore _ hIn rest rfl
      obtain ⟨rfl, -⟩ :=
        eq_of_append_cons_eq hNew hOnce (hSplit.symm.trans hExtensions)
      exact
        .dottedExtension (hCommand ▸ hFilled) (hRoots ▸ hSome) hChanged
          hBefore

end LinterConfig

------------------------------------------------------------
-- The First Linter With A Problem
------------------------------------------------------------

/-
  Whether a report is about a linter behind others which can
  all be run.
-/
structure InvalidLinter.IsFirstOf
    (invalid : InvalidLinter)
    (before : List LinterConfig)
    (linter : LinterConfig) : Prop where
  runnable : ∀ other ∈ before, other.IsRunnable
  index : invalid.index = before.length
  key : invalid.key = linter.key
  problem : linter.FirstProblem invalid.problem

namespace Config

theorem firstInvalid?_append
    (index : Nat)
    {before : List LinterConfig}
    (rest : List LinterConfig)
    (hBefore : ∀ linter ∈ before, linter.IsRunnable) :
    firstInvalid? index (before ++ rest) =
      firstInvalid? (index + before.length) rest := by
  induction before generalizing index with
  | nil => rfl
  | cons linter others ih =>
    obtain ⟨hFirst, hOthers⟩ := List.forall_mem_cons.mp hBefore
    rw [List.cons_append, firstInvalid?,
      LinterConfig.problem?_eq_none_iff.mpr hFirst]
    simp only [ih (index + 1) hOthers, List.length_cons,
      Nat.add_assoc, Nat.add_comm 1]

/- By induction on the linters, which are counted on the way. -/
theorem exists_of_firstInvalid?_eq_some
    {index : Nat}
    {linters : List LinterConfig}
    {invalid : InvalidLinter}
    (hFound : firstInvalid? index linters = some invalid) :
    ∃ before linter behind,
      linters = before ++ linter :: behind ∧
      (∀ other ∈ before, other.IsRunnable) ∧
      linter.FirstProblem invalid.problem ∧
      invalid.index = index + before.length ∧
      invalid.key = linter.key := by
  induction linters generalizing index with
  | nil => cases hFound
  | cons linter rest ih =>
    rw [firstInvalid?] at hFound
    split at hFound
    · next problem hProblem =>
      cases hFound
      have hFirst := LinterConfig.problem?_eq_some_iff.mp hProblem
      exact
        ⟨[], linter, rest, rfl, List.forall_mem_nil _, hFirst, rfl, rfl⟩
    · next hNone =>
      have hRunnable := LinterConfig.problem?_eq_none_iff.mp hNone
      rcases ih hFound with
        ⟨before, found, behind, rfl, hBefore, hFirst, hIndex, hKey⟩
      refine
        ⟨linter :: before, found, behind, rfl,
          List.forall_mem_cons.mpr ⟨hRunnable, hBefore⟩, hFirst, ?_,
          hKey⟩
      rw [hIndex, List.length_cons]
      omega

theorem validate_eq_error_iff
    {config : Config}
    {invalid : InvalidLinter} :
    config.validate = .error invalid ↔
      ∃ before linter behind,
        config.linters = before ++ linter :: behind ∧
        invalid.IsFirstOf before linter := by
  have hFound :
      config.validate = .error invalid ↔
        firstInvalid? 0 config.linters = some invalid := by
    unfold validate
    cases firstInvalid? 0 config.linters <;> simp
  rw [hFound]
  constructor
  · intro hSome
    rcases exists_of_firstInvalid?_eq_some hSome with
      ⟨before, linter, behind, hSplit, hBefore, hFirst, hIndex, hKey⟩
    rw [Nat.zero_add] at hIndex
    exact
      ⟨before, linter, behind, hSplit,
        ⟨hBefore, hIndex, hKey, hFirst⟩⟩
  · rintro ⟨before, linter, behind, hSplit, hFirst⟩
    have hProblem := LinterConfig.problem?_eq_some_iff.mpr hFirst.problem
    rw [hSplit, firstInvalid?_append 0 _ hFirst.runnable, firstInvalid?,
      hProblem, Nat.zero_add, ← hFirst.index, ← hFirst.key]

/-
  Whether two configurations are the same up to the problem
  that a report is about.
-/
structure SameUpTo
    (config other : Config)
    (invalid : InvalidLinter) : Prop where
  linters :
    ∃ before linter changed behind more,
      config.linters = before ++ linter :: behind ∧
      other.linters = before ++ changed :: more ∧
      before.length = invalid.index ∧
      changed.key = linter.key ∧
      linter.SameUpTo changed invalid.problem

/- Only what stands in front of a problem has a say in it. -/
theorem validate_of_sameUpTo
    {config other : Config}
    {invalid : InvalidLinter}
    (hInvalid : config.validate = .error invalid)
    (hSame : config.SameUpTo other invalid) :
    other.validate = .error invalid := by
  rcases validate_eq_error_iff.mp hInvalid with
    ⟨front, found, back, hSplit, hFirst⟩
  rcases hSame.linters with
    ⟨before, linter, changed, behind, more, hLinters, hOther, hLength,
      hKey, hUpTo⟩
  obtain ⟨rfl, hTail⟩ :=
    List.append_inj (hSplit.symm.trans hLinters)
      (hFirst.index.symm.trans hLength.symm)
  obtain ⟨rfl, -⟩ := List.cons.inj hTail
  refine validate_eq_error_iff.mpr ⟨front, changed, more, hOther, ?_⟩
  exact
    { runnable := hFirst.runnable
      index := hFirst.index
      key := hFirst.key.trans hKey.symm
      problem := hFirst.problem.of_sameUpTo hUpTo }

theorem validate_append
    {config : Config}
    {invalid : InvalidLinter}
    (hInvalid : config.validate = .error invalid)
    (more : List LinterConfig) :
    { config with linters := config.linters ++ more }.validate =
      .error invalid := by
  rcases validate_eq_error_iff.mp hInvalid with
    ⟨before, linter, behind, hSplit, hFirst⟩
  refine
    validate_eq_error_iff.mpr
      ⟨before, linter, behind ++ more, ?_, hFirst⟩
  simp [hSplit]

end Config

------------------------------------------------------------
-- What A Report Tells
------------------------------------------------------------

theorem Problem.message_injective
    {problem other : Problem}
    (hSame : problem.message = other.message) :
    problem = other := by
  have hChars := congrArg String.toList hSame
  cases problem with
  | dottedExtension extension =>
    cases other with
    | dottedExtension found =>
      have hText : extension.toList = found.toList := by
        simpa [message] using hChars
      rw [String.toList_inj.mp hText]
    | _ => simp [message] at hChars
  | _ => cases other <;> simp [message] at hChars ⊢

/-
  The wording of a report tells its parts.  It is cut behind
  the index and behind the language, neither of which holds
  the bracket that follows it.
-/
theorem InvalidLinter.message_injective
    {invalid other : InvalidLinter}
    (hSame : invalid.message = other.message) :
    invalid = other := by
  have hBracket : ∀ n : Nat, ']' ∉ (toString n).toList := by
    intro n hIn
    rw [Nat.toString_eq_ofList_toDigits, String.toList_ofList] at hIn
    have hDigit := Nat.isDigit_of_mem_toDigits (by decide) (by decide) hIn
    cases hDigit
  have hParenthesis : ∀ key : Language, ')' ∉ key.name.toList := by
    intro key
    cases key <;> decide
  have hChars :
      (toString invalid.index).toList ++
          ']' :: ' ' :: '(' :: (invalid.key.name.toList ++
            ')' :: ':' :: ' ' :: invalid.problem.message.toList) =
        (toString other.index).toList ++
          ']' :: ' ' :: '(' :: (other.key.name.toList ++
            ')' :: ':' :: ' ' :: other.problem.message.toList) := by
    simpa [message] using congrArg String.toList hSame
  obtain ⟨hDigits, hRest⟩ :=
    eq_of_append_cons_eq (hBracket _) (hBracket _) hChars
  simp only [List.cons.injEq, true_and] at hRest
  obtain ⟨hName, hMessage⟩ :=
    eq_of_append_cons_eq (hParenthesis _) (hParenthesis _) hRest
  simp only [List.cons.injEq, true_and] at hMessage
  have hIndex : invalid.index = other.index := by
    have hNumber := congrArg (Nat.ofDigitChars 10 · 0) hDigits
    simpa [Nat.toString_eq_ofList_toDigits,
      Nat.ofDigitChars_ten_toDigits] using hNumber
  have hKey : invalid.key = other.key := by
    have hLanguage :=
      congrArg Language.ofName? (String.toList_inj.mp hName)
    simpa using hLanguage
  have hProblem : invalid.problem = other.problem :=
    Problem.message_injective (String.toList_inj.mp hMessage)
  rcases invalid with ⟨index, key, problem⟩
  rcases other with ⟨otherIndex, otherKey, otherProblem⟩
  cases hIndex
  cases hKey
  cases hProblem
  rfl

------------------------------------------------------------
-- Reports About Configurations
------------------------------------------------------------

namespace Config

/-
  A configuration is accepted exactly if all its linters can
  be run.  Any other is refused with a report about the first
  of its linters that cannot, and about the first problem that
  this one has.  The report can be told from every other by
  its wording.  It stays the same if linters are appended, and
  whatever is changed behind the problem.
-/
theorem first_problem_reported
    (config : Config) :
    (config.validate = .ok () ↔
      ∀ linter ∈ config.linters, linter.IsRunnable) ∧
    (∀ invalid,
      config.validate = .error invalid ↔
        ∃ before linter behind,
          config.linters = before ++ linter :: behind ∧
          invalid.IsFirstOf before linter) ∧
    (∀ invalid other : InvalidLinter,
      invalid.message = other.message → invalid = other) ∧
    ∀ invalid,
      config.validate = .error invalid →
      (∀ more,
        { config with linters := config.linters ++ more }.validate =
          .error invalid) ∧
      ∀ other : Config,
        config.SameUpTo other invalid →
        other.validate = .error invalid := by
  refine
    ⟨validate_eq_ok_iff, fun _ => validate_eq_error_iff,
      fun _ _ => InvalidLinter.message_injective, ?_⟩
  intro invalid hInvalid
  refine ⟨validate_append hInvalid, ?_⟩
  intro other hSame
  exact validate_of_sameUpTo hInvalid hSame

------------------------------------------------------------
-- Two Configurations With One Problem
------------------------------------------------------------

namespace Dotted

def linter (command : String) (extensions : List String) : LinterConfig where
  key := .python
  roots := ["lib"]
  extensions := extensions
  command := command
  args := []
  env := Dictionary.empty
  cwd := none
  policy := .quiet

/- The second linter has an extension with a dot in front. -/
def config
    (extensions : List String)
    (behind : List LinterConfig) : Config where
  sourceRoot := ""
  blacklist := []
  linters :=
    linter "lint" ["py"]
      :: linter "lint" ("py" :: ".pyi" :: extensions) :: behind

/- The report about it. -/
def invalid : InvalidLinter :=
  ⟨1, .python, .dottedExtension ".pyi"⟩

theorem sameUpTo_config :
    (config [".py"] []).SameUpTo (config ["c"] [linter " " []])
      invalid where
  linters := by
    have hFirst : ".pyi" ∉ ["py"] := by decide
    exact
      ⟨[linter "lint" ["py"]], _, _, _, _, rfl, rfl, rfl, rfl,
        .dottedExtension rfl rfl hFirst rfl rfl⟩

end Dotted

/- A second dot and a blank command further on are not reported. -/
open Dotted in
theorem second_linter_reported_alike :
    (config [".py"] []).validate = .error invalid ∧
    (config ["c"] [linter " " []]).validate = .error invalid ∧
    invalid.message =
      "linters[1] (python): extension '.pyi' must not start with a dot" := by
  have hInvalid : (config [".py"] []).validate = .error invalid := rfl
  rcases first_problem_reported (config [".py"] []) with
    ⟨-, -, -, hStable⟩
  exact
    ⟨hInvalid, (hStable invalid hInvalid).2 _ sameUpTo_config, by decide⟩

end Config

end TreeLint
