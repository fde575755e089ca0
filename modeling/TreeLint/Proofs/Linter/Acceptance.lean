import TreeLint.Linter.Registry
import TreeLint.Proofs.Config.Validity
import TreeLint.Proofs.Path.Extensions

/-
  Which files the extensions of a valid configuration accept.

  Key theorems include:
    * `Linter.exists_accepts_iff`
    * `Config.valid_extension_accepts_iff`

  Validation refuses an extension that starts with a dot, for
  no file has one.  But no file has an extension with a dot
  further on either, nor one with a slash, and these are valid.
  So some extensions of a valid configuration accept nothing.
-/

------------------------------------------------------------
-- Linters With One Extension
------------------------------------------------------------

namespace TreeLint

/-
  A linter with one extension accepts some file, unless the
  extension holds a dot or a slash.
-/
theorem Linter.exists_accepts_iff
    {linter : Linter}
    {extension : String}
    (hSingle : linter.extensions = [extension]) :
    (∃ file, linter.accepts file = true) ↔
      '.' ∉ extension.toList ∧ '/' ∉ extension.toList := by
  rw [← Path.exists_hasExtension_iff, ← hSingle]
  rfl

namespace Config

------------------------------------------------------------
-- Extensions Of A Valid Configuration
------------------------------------------------------------

/-
  No extension of a valid configuration starts with a dot.  A
  linter with this one extension accepts some file exactly if
  there is no other dot in it and no slash.
-/
theorem valid_extension_accepts_iff
    (config : Config)
    (hValid : config.validate = .ok ())
    (linter : LinterConfig)
    (hLinter : linter ∈ config.linters)
    (extension : String)
    (hExtension : extension ∈ linter.extensions) :
    (∀ rest, extension ≠ "." ++ rest) ∧
    ∀ single : Linter,
      single.extensions = [extension] →
      ((∃ file, single.accepts file = true) ↔
        '.' ∉ extension.toList ∧ '/' ∉ extension.toList) := by
  have hRunnable : linter.IsRunnable :=
    validate_eq_ok_iff.mp hValid linter hLinter
  exact
    ⟨hRunnable.undotted extension hExtension,
      fun single hSingle => Linter.exists_accepts_iff hSingle⟩

/- A configuration with one linter, for files with one extension. -/
def archives (extension : String) : Config where
  sourceRoot := ""
  blacklist := []
  linters :=
    [ { key := .python
        roots := ["dist"]
        extensions := [extension]
        command := "lint"
        args := []
        env := Dictionary.empty
        cwd := none
        policy := .quiet } ]

/- The linter that it describes. -/
def archiveLinter (extension : String) : Linter where
  key := .python
  roots := ["/r/dist"]
  extensions := [extension]
  program := "lint"
  args := []
  env := Dictionary.empty
  cwd := none
  policy := .quiet

/- A plain extension is one that files have. -/
theorem plain_extension_accepts :
    (archives "gz").validate = .ok () ∧
    ∃ file, (archiveLinter "gz").accepts file = true := by
  have hValid : (archives "gz").validate = .ok () := rfl
  rcases valid_extension_accepts_iff (archives "gz") hValid _
      List.mem_cons_self "gz" (by decide) with
    ⟨-, hAccepts⟩
  exact
    ⟨hValid, (hAccepts (archiveLinter "gz") rfl).mpr (by decide)⟩

/- An extension of two parts is valid too, and no file has it. -/
theorem compound_extension_accepts_nothing :
    (archives "tar.gz").validate = .ok () ∧
    (∃ linter ∈ (archives "tar.gz").linters,
      "tar.gz" ∈ linter.extensions) ∧
    ∀ single : Linter,
      single.extensions = ["tar.gz"] →
      ∀ file, single.accepts file = false := by
  refine ⟨rfl, ⟨_, List.mem_cons_self, by decide⟩, ?_⟩
  intro single hSingle file
  rw [Bool.eq_false_iff]
  intro hAccepts
  obtain ⟨hDot, -⟩ :=
    (Linter.exists_accepts_iff hSingle).mp ⟨file, hAccepts⟩
  exact hDot (by decide)

end Config

end TreeLint
