import TreeLint.Config.Validation

/-
  Configurations without a problem.

  Key definitions include:
    * `LinterConfig.IsRunnable`

  Key theorems include:
    * `LinterConfig.problem?_eq_none_iff`
    * `Config.firstInvalid?_eq_none_iff`
    * `Config.validate_eq_ok_iff`

  A configuration is valid exactly if every one of its linters
  could be run.
-/

------------------------------------------------------------
-- One Linter
------------------------------------------------------------

namespace TreeLint

theorem startsWithDot_eq_true_iff
    {extension : String} :
    startsWithDot extension = true ↔ ∃ rest, extension = "." ++ rest := by
  constructor
  · intro hDot
    unfold startsWithDot at hDot
    split at hDot
    · next rest hChars =>
      refine ⟨String.ofList rest, ?_⟩
      rw [← String.toList_inj, hChars]
      simp
    · cases hDot
  · rintro ⟨rest, rfl⟩
    simp [startsWithDot]

namespace LinterConfig

/- What a linter needs in order to be run. -/
structure IsRunnable (linter : LinterConfig) : Prop where
  command : Text.isBlankText linter.command = false
  roots : linter.roots ≠ []
  extensions : linter.extensions ≠ []
  undotted :
    ∀ extension ∈ linter.extensions, ∀ rest, extension ≠ "." ++ rest

theorem problem?_eq_none_iff
    {linter : LinterConfig} :
    linter.problem? = none ↔ linter.IsRunnable := by
  have hUndotted :
      (linter.extensions.find? startsWithDot).map Problem.dottedExtension =
          none ↔
        ∀ extension ∈ linter.extensions,
          ∀ rest, extension ≠ "." ++ rest := by
    rw [Option.map_eq_none_iff, List.find?_eq_none]
    simp only [startsWithDot_eq_true_iff, not_exists, ne_eq]
  unfold problem?
  constructor
  · intro hNone
    split at hNone
    · cases hNone
    · next hCommand =>
      split at hNone
      · cases hNone
      · next hRoots =>
        split at hNone
        · cases hNone
        · next hExtensions =>
          exact
            { command := by simpa using hCommand
              roots := by simpa using hRoots
              extensions := by simpa using hExtensions
              undotted := hUndotted.mp hNone }
  · intro hRunnable
    rw [hRunnable.command, List.isEmpty_eq_false_iff.mpr hRunnable.roots,
      List.isEmpty_eq_false_iff.mpr hRunnable.extensions]
    exact hUndotted.mpr hRunnable.undotted

end LinterConfig

------------------------------------------------------------
-- All Linters
------------------------------------------------------------

namespace Config

theorem firstInvalid?_eq_none_iff
    (index : Nat)
    {linters : List LinterConfig} :
    firstInvalid? index linters = none ↔
      ∀ linter ∈ linters, linter.IsRunnable := by
  induction linters generalizing index with
  | nil => simp [firstInvalid?]
  | cons linter rest ih =>
    rw [firstInvalid?, List.forall_mem_cons,
      ← LinterConfig.problem?_eq_none_iff, ← ih (index + 1)]
    cases linter.problem? <;> simp

theorem validate_eq_ok_iff
    {config : Config} :
    config.validate = .ok () ↔
      ∀ linter ∈ config.linters, linter.IsRunnable := by
  rw [← firstInvalid?_eq_none_iff 0, validate]
  cases firstInvalid? 0 config.linters <;> simp

end Config

end TreeLint
