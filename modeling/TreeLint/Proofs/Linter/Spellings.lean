import Mathlib
import TreeLint.Linter.Registry
import TreeLint.Proofs.Linter.Substitution
import TreeLint.Proofs.Path.Composition
import TreeLint.Proofs.Path.Joined

/-
  Directories spelled with and without the source root.

  Key definitions include:
    * `Placeholder.directoryAt`
    * `Placeholder.Respells`
    * `LinterConfig.Respells`
    * `Config.Respells`
    * `Registry.IgnoresSpelling`

  Key theorems include:
    * `Path.meaning_append_slash`
    * `Placeholder.directoryAt_anchored`
    * `Registry.ofConfig_of_respells`
    * `Registry.spelling_ignored_iff`

  A directory of a configuration is seen from the source root,
  so the root may as well be written in front of it.  One
  spelling joins paths and the other puts a text in place of a
  placeholder.  They agree where the root that is put in leads
  to where the root leads itself, as every root does that is a
  plain text.
-/

------------------------------------------------------------
-- Paths Behind A Slash
------------------------------------------------------------

namespace TreeLint

namespace Path

/-
  A second slash between two paths counts for nothing, so a
  path may be written behind any other with a slash.
-/
theorem meaning_append_slash
    {base p : Path}
    (hBase : base ≠ "")
    (hRelative : p.isAbsolute = false) :
    meaning (base ++ "/" ++ p) = meaning (base.join p) := by
  have hStart : isAbsolute (base ++ "/" ++ p) = base.isAbsolute := by
    rw [String.append_assoc, isAbsolute_append hBase]
  unfold meaning
  rw [hStart, isAbsolute_join_relative hBase hRelative,
    segments_append_slash, List.foldl_append,
    foldl_segments_join (fun _ => rfl) hBase hRelative]

/- From paths that lead to one place everything is seen alike. -/
theorem resolve_congr
    {base other : Path}
    (hSame : base.normalize = other.normalize)
    (p : Path) :
    base.resolve p = other.resolve p := by
  rw [resolve_eq_render, resolve_eq_render,
    normalize_eq_normalize_iff.mp hSame]

end Path

------------------------------------------------------------
-- Two Spellings Of A Directory
------------------------------------------------------------

namespace Placeholder

/- The directory that a text of a configuration names. -/
def directoryAt (root : Path) (directory : String) : Path :=
  Path.resolve root (expand directory root)

/-
  Two spellings of a directory.  The second one may have the
  source root in front of the first, unless that is absolute.
-/
inductive Respells (root : Path) (directory : String) : String → Prop where
  | same :
      Respells root directory directory
  | anchored
      (hRelative : Path.isAbsolute (expand directory root) = false) :
      Respells root directory (mark ++ "/" ++ directory)

theorem expand_anchored
    (directory : String)
    (root : Path) :
    expand (mark ++ "/" ++ directory) root =
      RawByte.mended root ++ "/" ++ expand directory root := by
  have hSlash :
      expand ("/" ++ directory) root = "/" ++ expand directory root := by
    rw [← String.toList_inj]
    simp [expand, expandChars]
  have hMark := expand_append root "" ("/" ++ directory)
  rw [String.empty_append, hSlash, ← String.append_assoc,
    ← String.append_assoc] at hMark
  rw [hMark]
  simp [expand, expandChars]

section

variable {root : Path} {directory : String}

/- With the root in front, a directory is seen from what is put in. -/
theorem directoryAt_anchored
    (hRoot : root.isAbsolute = true)
    (hRelative : Path.isAbsolute (expand directory root) = false) :
    directoryAt root (mark ++ "/" ++ directory) =
      Path.resolve (RawByte.mended root) (expand directory root) := by
  have hMended : Path.isAbsolute (RawByte.mended root) = true :=
    RawByte.isAbsolute_mended hRoot
  have hSome : RawByte.mended root ≠ "" := by
    intro hEmpty
    rw [hEmpty] at hMended
    cases hMended
  have hAbsolute :
      Path.isAbsolute
          (RawByte.mended root ++ "/" ++ expand directory root) =
        true := by
    rw [String.append_assoc, Path.isAbsolute_append hSome, hMended]
  rw [directoryAt, expand_anchored, Path.resolve, if_pos hAbsolute,
    Path.resolve_eq_normalize_join]
  exact
    Path.normalize_eq_normalize_iff.mpr
      (Path.meaning_append_slash hSome hRelative)

theorem directoryAt_of_respells
    {other : String}
    (hRoot : root.isAbsolute = true)
    (hSame : Path.normalize (RawByte.mended root) = root.normalize)
    (hRespells : Respells root directory other) :
    directoryAt root directory = directoryAt root other := by
  cases hRespells with
  | same => rfl
  | anchored hRelative =>
    rw [directoryAt_anchored hRoot hRelative]
    exact Path.resolve_congr hSame.symm _

end

end Placeholder

------------------------------------------------------------
-- Two Spellings Of A Configuration
------------------------------------------------------------

/- Two linters that differ in how they spell their directories. -/
structure LinterConfig.Respells
    (root : Path)
    (linter other : LinterConfig) : Prop where
  rest : { other with roots := linter.roots, cwd := linter.cwd } = linter
  roots : List.Forall₂ (Placeholder.Respells root) linter.roots other.roots
  cwd : Option.Rel (Placeholder.Respells root) linter.cwd other.cwd

/- Two configurations that differ in how they spell directories. -/
structure Config.Respells
    (root : Path)
    (config other : Config) : Prop where
  rest : { other with linters := config.linters } = config
  linters :
    List.Forall₂ (LinterConfig.Respells root) config.linters other.linters

/- Whether it makes no difference how directories are spelled. -/
def Registry.IgnoresSpelling (root : Path) : Prop :=
  ∀ config other : Config,
    Config.Respells root config other →
    Registry.ofConfig other root = Registry.ofConfig config root

section

variable {α β γ : Type} {related : α → β → Prop}
variable {read : α → γ} {readOther : β → γ}

/- What does not tell related members apart reads lists alike. -/
theorem map_eq_map_of_forall₂
    {as : List α}
    {bs : List β}
    (hRead : ∀ a b, related a b → read a = readOther b)
    (hAll : List.Forall₂ related as bs) :
    as.map read = bs.map readOther := by
  induction hAll with
  | nil => rfl
  | cons hFirst _ ih =>
    rw [List.map_cons, List.map_cons, hRead _ _ hFirst, ih]

theorem map_eq_map_of_rel
    {a? : Option α}
    {b? : Option β}
    (hRead : ∀ a b, related a b → read a = readOther b)
    (hBoth : Option.Rel related a? b?) :
    a?.map read = b?.map readOther := by
  cases hBoth with
  | none => rfl
  | some hRelated => exact congrArg some (hRead _ _ hRelated)

end

section

variable {root : Path}

namespace LinterConfig.Respells

variable {linter other : LinterConfig}

/- Spelling does not make a linter one that cannot be run. -/
theorem problem?_eq
    (hRespells : linter.Respells root other) :
    linter.problem? = other.problem? := by
  have hEmpty : linter.roots.isEmpty = other.roots.isEmpty := by
    rw [Bool.eq_iff_iff, List.isEmpty_iff_length_eq_zero,
      List.isEmpty_iff_length_eq_zero, hRespells.roots.length_eq]
  rw [← hRespells.rest, problem?, problem?, ← hEmpty]

theorem resolve_eq
    (hRoot : root.isAbsolute = true)
    (hSame : Path.normalize (RawByte.mended root) = root.normalize)
    (hRespells : linter.Respells root other) :
    Linter.resolve root linter = Linter.resolve root other := by
  have hDirectory :
      ∀ directory respelled,
        Placeholder.Respells root directory respelled →
        Placeholder.directoryAt root directory =
          Placeholder.directoryAt root respelled :=
    fun _ _ => Placeholder.directoryAt_of_respells hRoot hSame
  have hRoots :
      linter.roots.map (Placeholder.directoryAt root) =
        other.roots.map (Placeholder.directoryAt root) :=
    map_eq_map_of_forall₂ hDirectory hRespells.roots
  have hCwd :
      linter.cwd.map (Placeholder.directoryAt root) =
        other.cwd.map (Placeholder.directoryAt root) :=
    map_eq_map_of_rel hDirectory hRespells.cwd
  calc Linter.resolve root linter
    _ = Linter.resolve root
          { other with roots := linter.roots, cwd := linter.cwd } := by
      rw [hRespells.rest]
    _ = { Linter.resolve root other with
          roots := linter.roots.map (Placeholder.directoryAt root)
          cwd := linter.cwd.map (Placeholder.directoryAt root) } :=
      rfl
    _ = Linter.resolve root other := by
      rw [hRoots, hCwd]
      rfl

end LinterConfig.Respells

namespace Registry

/- The first linter that cannot be run is found alike. -/
theorem firstInvalid?_of_respells
    {linters others : List LinterConfig}
    (hAll : List.Forall₂ (LinterConfig.Respells root) linters others)
    (index : Nat) :
    Config.firstInvalid? index linters =
      Config.firstInvalid? index others := by
  induction hAll generalizing index with
  | nil => rfl
  | cons hFirst _ ih =>
    rw [Config.firstInvalid?, Config.firstInvalid?, hFirst.problem?_eq,
      ih, ← hFirst.rest]

/- Where the roots lead to one place, spelling is ignored. -/
theorem ofConfig_of_respells
    {config other : Config}
    (hRoot : root.isAbsolute = true)
    (hSame : Path.normalize (RawByte.mended root) = root.normalize)
    (hRespells : config.Respells root other) :
    ofConfig other root = ofConfig config root := by
  have hLinters :
      config.linters.map (Linter.resolve root) =
        other.linters.map (Linter.resolve root) :=
    map_eq_map_of_forall₂
      (fun _ _ hOne => hOne.resolve_eq hRoot hSame) hRespells.linters
  have hValidate : config.validate = other.validate := by
    rw [Config.validate, Config.validate,
      firstInvalid?_of_respells hRespells.linters]
  rw [ofConfig, ofConfig, hLinters, hValidate]

end Registry

end

------------------------------------------------------------
-- Roots That Are Put In As They Are
------------------------------------------------------------

theorem Path.resolve_current
    (base : Path) :
    base.resolve current = base.normalize := by
  have hMeaning : meaning current = Meaning.start false := by decide
  rw [resolve_eq_render, hMeaning, Meaning.followedBy_start,
    normalize_eq_render]

namespace OneDirectory

/- A linter that searches one directory and starts in it. -/
def linter (directory : String) : LinterConfig where
  key := .python
  roots := [directory]
  extensions := ["py"]
  command := "lint"
  args := []
  env := .empty
  cwd := some directory
  policy := .quiet

def config (directory : String) : Config where
  sourceRoot := ""
  blacklist := []
  linters := [linter directory]

theorem ofConfig_config
    (directory : String)
    (root : Path) :
    Registry.ofConfig (config directory) root =
      .ok [Linter.resolve root (linter directory)] := by
  have hValid : (config directory).validate = .ok () := by
    cbv
  rw [Registry.ofConfig, hValid]
  rfl

theorem respells_config
    {root : Path}
    {directory other : String}
    (hRespells : Placeholder.Respells root directory other) :
    Config.Respells root (config directory) (config other) where
  rest := rfl
  linters :=
    .cons
      { rest := rfl
        roots := .cons hRespells .nil
        cwd := .some hRespells }
      .nil

/- One directory is spelled alike where the registries are the same. -/
theorem directoryAt_eq_of_ofConfig_eq
    {root : Path}
    {directory other : String}
    (hSame :
      Registry.ofConfig (config other) root =
        Registry.ofConfig (config directory) root) :
    Placeholder.directoryAt root other =
      Placeholder.directoryAt root directory := by
  rw [ofConfig_config, ofConfig_config] at hSame
  have hLinter :
      Linter.resolve root (linter other) =
        Linter.resolve root (linter directory) :=
    List.singleton_injective (Except.ok.inj hSame)
  exact List.singleton_injective (congrArg Linter.roots hLinter)

end OneDirectory

namespace Registry

/-
  The source root itself is a directory with two spellings, so
  where spelling is ignored they lead to one place.
-/
theorem normalize_mended_of_ignoresSpelling
    {root : Path}
    (hRoot : root.isAbsolute = true)
    (hIgnores : IgnoresSpelling root) :
    Path.normalize (RawByte.mended root) = root.normalize := by
  have hKept : Placeholder.expand Path.current root = Path.current :=
    Placeholder.expand_of_free root (by decide)
  have hRelative :
      Path.isAbsolute (Placeholder.expand Path.current root) = false := by
    rw [hKept]
    rfl
  have hSame :=
    OneDirectory.directoryAt_eq_of_ofConfig_eq
      (hIgnores _ _ (OneDirectory.respells_config (.anchored hRelative)))
  rwa [Placeholder.directoryAt_anchored hRoot hRelative,
    Placeholder.directoryAt, hKept, Path.resolve_current,
    Path.resolve_current] at hSame

/-
  A plain text as a source root may be written in front of any
  directory that is not absolute, or left out.  In general it
  may where the root that is put in leads to where the source
  root leads itself.
-/
theorem spelling_ignored_iff
    (root : Path)
    (hRoot : root.isAbsolute = true) :
    (∀ text, root = RawByte.hold text → IgnoresSpelling root) ∧
    (IgnoresSpelling root ↔
      Path.normalize (RawByte.mended root) = root.normalize) := by
  have hIff :
      IgnoresSpelling root ↔
        Path.normalize (RawByte.mended root) = root.normalize := by
    constructor
    · exact normalize_mended_of_ignoresSpelling hRoot
    · intro hSame config other hRespells
      exact ofConfig_of_respells hRoot hSame hRespells
  refine ⟨?_, hIff⟩
  rintro text rfl
  exact hIff.mpr (by rw [RawByte.mended_hold])

/- A directory above the root, with another placeholder in it. -/
theorem spelling_ignored_at_plain_root :
    Path.isAbsolute "/a" = true ∧
    "/a" = RawByte.hold "/a" ∧
    IgnoresSpelling "/a" ∧
    Config.Respells "/a" (OneDirectory.config "..//x\x7broot\x7d/")
      (OneDirectory.config "\x7broot\x7d/..//x\x7broot\x7d/") ∧
    ofConfig (OneDirectory.config "\x7broot\x7d/..//x\x7broot\x7d/")
        "/a" =
      ofConfig (OneDirectory.config "..//x\x7broot\x7d/") "/a" := by
  have hRoot : Path.isAbsolute "/a" = true := by decide
  have hPlain : "/a" = RawByte.hold "/a" := by decide
  have hIgnores : IgnoresSpelling "/a" :=
    (spelling_ignored_iff "/a" hRoot).1 "/a" hPlain
  have hRespells :
      Config.Respells "/a" (OneDirectory.config "..//x\x7broot\x7d/")
        (OneDirectory.config "\x7broot\x7d/..//x\x7broot\x7d/") :=
    OneDirectory.respells_config (.anchored (by decide))
  exact ⟨hRoot, hPlain, hIgnores, hRespells, hIgnores _ _ hRespells⟩

/- Only without the placeholder is the faulty root searched. -/
theorem spelling_matters_at_faulty_root :
    Path.isAbsolute faultyRoot = true ∧
    Config.Respells faultyRoot (OneDirectory.config "lib")
      (OneDirectory.config "\x7broot\x7d/lib") ∧
    Placeholder.directoryAt faultyRoot "lib" = faultyRoot ++ "/lib" ∧
    Placeholder.directoryAt faultyRoot "\x7broot\x7d/lib" =
      "/a\uFFFD/lib" ∧
    ofConfig (OneDirectory.config "\x7broot\x7d/lib") faultyRoot ≠
      ofConfig (OneDirectory.config "lib") faultyRoot := by
  have hRoot : Path.isAbsolute faultyRoot = true := by cbv
  have hKept : Placeholder.expand "lib" faultyRoot = "lib" :=
    Placeholder.expand_of_free faultyRoot (by decide)
  have hRelative :
      Path.isAbsolute (Placeholder.expand "lib" faultyRoot) = false := by
    rw [hKept]
    rfl
  have hNear :
      Placeholder.directoryAt faultyRoot "lib" = faultyRoot ++ "/lib" := by
    rw [Placeholder.directoryAt, hKept]
    cbv
  have hText : Placeholder.mark ++ "/" ++ "lib" = "\x7broot\x7d/lib" := by
    decide
  have hRespells :
      Placeholder.Respells faultyRoot "lib" "\x7broot\x7d/lib" := by
    rw [← hText]
    exact .anchored hRelative
  have hAnchored :
      Placeholder.directoryAt faultyRoot "\x7broot\x7d/lib" =
        "/a\uFFFD/lib" := by
    rw [← hText, Placeholder.directoryAt_anchored hRoot hRelative, hKept,
      mended_faultyRoot]
    cbv
  refine
    ⟨hRoot, OneDirectory.respells_config hRespells, hNear, hAnchored,
      fun hSame => ?_⟩
  have hDirectories := OneDirectory.directoryAt_eq_of_ofConfig_eq hSame
  rw [hNear, hAnchored] at hDirectories
  have hApart : ("/a\uFFFD/lib" == faultyRoot ++ "/lib") = false := by
    cbv
  exact beq_eq_false_iff_ne.mp hApart hDirectories

end Registry

end TreeLint
