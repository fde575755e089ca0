import Mathlib.Data.List.Forall2
import TreeLint.Proofs.Config.Validity
import TreeLint.Proofs.Path.Composition
import TreeLint.Proofs.Run.LinkedRoots

/-
  Configured linters and the ones they resolve to.

  Key definitions include:
    * `Path.IsAnchored`
    * `LinterConfig.ResolvesTo`

  Key theorems include:
    * `Path.isAnchored_resolve`
    * `Config.isAnchored_findSourceRoot`
    * `Registry.ofConfig_eq_error_iff`
    * `LinterConfig.IsRunnable.resolvesTo`
    * `valid_config_resolves_at_source_root`

  Whatever texts a valid configuration holds, its linters
  resolve at the source root: nothing but places is left of
  their roots and directories, and what has to be there for
  them to be run still is.
-/

------------------------------------------------------------
-- Anchored Paths
------------------------------------------------------------

namespace TreeLint

namespace Path

/- A path that starts at the root and is in normal form. -/
structure IsAnchored (p : Path) : Prop where
  absolute : p.isAbsolute = true
  normal : p.normalize = p

theorem isAnchored_normalize
    {p : Path}
    (hAbsolute : p.isAbsolute = true) :
    p.normalize.IsAnchored where
  absolute := (isAbsolute_normalize p).trans hAbsolute
  normal := normalize_of_isCanonical (isCanonical_normalize p)

/- What is seen from an absolute base is anchored. -/
theorem isAnchored_resolve
    {base : Path}
    (hBase : base.isAbsolute = true)
    (p : Path) :
    (base.resolve p).IsAnchored := by
  rw [resolve_eq_normalize_join]
  exact isAnchored_normalize (isAbsolute_join p hBase)

theorem normalize_ne_empty
    (p : Path) :
    p.normalize ≠ "" := by
  rw [normalize_eq_render, Meaning.render_eq_written (isProper_meaning p)]
  split
  · decide
  · next hSome => simpa using hSome

end Path

/- The source root is anchored, however it is found. -/
theorem Config.isAnchored_findSourceRoot
    {config : Config}
    {t : FileTree}
    {session : Session}
    {start : Path}
    (hStart : config.StartsAbsolute t session start) :
    (config.findSourceRoot t session start).IsAnchored := by
  rcases Config.exists_place_of_findSourceRoot hStart with
    ⟨place, hProper, hPlace⟩
  rw [hPlace]
  exact
    { absolute := Location.isAbsolute_toPath place
      normal := Location.normalize_toPath hProper }

------------------------------------------------------------
-- Resolved Linters
------------------------------------------------------------

/-
  What becomes of a configured linter.  Its places are
  anchored, it has what it needs to be run, and all that names
  no place is as configured.
-/
structure LinterConfig.ResolvesTo
    (config : LinterConfig)
    (linter : Linter) : Prop where
  key : linter.key = config.key
  extensions : linter.extensions = config.extensions
  policy : linter.policy = config.policy
  names :
    linter.env.entries.map Prod.fst = config.env.entries.map Prod.fst
  roots : ∀ root ∈ linter.roots, root.IsAnchored
  cwd : ∀ directory ∈ linter.cwd, directory.IsAnchored
  hasProgram : linter.program ≠ ""
  hasRoot : linter.roots ≠ []
  hasExtension : linter.extensions ≠ []
  undotted :
    ∀ extension ∈ linter.extensions, ∀ rest, extension ≠ "." ++ rest

/- A command with something in it leads to a program. -/
theorem Linter.program_resolve_ne_empty
    {config : LinterConfig}
    (hCommand : Text.isBlankText config.command = false)
    (root : Path) :
    (Linter.resolve root config).program ≠ "" := by
  show (if Placeholder.occursIn config.command then _ else _) ≠ ""
  split
  · exact Path.normalize_ne_empty _
  · intro hEmpty
    rw [hEmpty] at hCommand
    cases hCommand

theorem LinterConfig.IsRunnable.resolvesTo
    {config : LinterConfig}
    {root : Path}
    (hRunnable : config.IsRunnable)
    (hRoot : root.isAbsolute = true) :
    config.ResolvesTo (Linter.resolve root config) where
  key := rfl
  extensions := rfl
  policy := rfl
  names := by simp [Linter.resolve, Dictionary.mapValues]
  roots := by
    intro found hFound
    rcases List.mem_map.mp hFound with ⟨written, _, rfl⟩
    exact Path.isAnchored_resolve hRoot _
  cwd := by
    intro found hFound
    rcases Option.map_eq_some_iff.mp hFound with ⟨written, _, rfl⟩
    exact Path.isAnchored_resolve hRoot _
  hasProgram := Linter.program_resolve_ne_empty hRunnable.command root
  hasRoot := by simpa [Linter.resolve] using hRunnable.roots
  hasExtension := hRunnable.extensions
  undotted := hRunnable.undotted

------------------------------------------------------------
-- Registries
------------------------------------------------------------

/- Resolving fails where validating does, and in the same words. -/
theorem Registry.ofConfig_eq_error_iff
    {config : Config}
    {root : Path}
    {invalid : InvalidLinter} :
    Registry.ofConfig config root = .error invalid ↔
      config.validate = .error invalid := by
  unfold Registry.ofConfig
  cases config.validate <;> simp

/-
  At the source root a configuration is refused exactly if it
  is not valid, for the same reason.  A valid one comes to a
  registry of the linters that it describes, in their order.
-/
theorem valid_config_resolves_at_source_root
    (config : Config)
    (t : FileTree)
    (session : Session)
    (start : Path)
    (hStart : config.StartsAbsolute t session start) :
    let root := config.findSourceRoot t session start
    root.IsAnchored ∧
    (∀ invalid,
      Registry.ofConfig config root = .error invalid ↔
        config.validate = .error invalid) ∧
    (config.validate = .ok () →
      ∃ registry,
        Registry.ofConfig config root = .ok registry ∧
        List.Forall₂ LinterConfig.ResolvesTo config.linters
          registry) := by
  intro root
  have hRoot : root.IsAnchored := Config.isAnchored_findSourceRoot hStart
  refine ⟨hRoot, fun _ => Registry.ofConfig_eq_error_iff, ?_⟩
  intro hValid
  refine ⟨_, Config.ofConfig_eq_ok hValid root, ?_⟩
  rw [List.forall₂_map_right_iff, List.forall₂_same]
  intro linter hLinter
  exact
    (Config.validate_eq_ok_iff.mp hValid linter hLinter).resolvesTo
      hRoot.absolute

------------------------------------------------------------
-- A Configuration Without A Source Root
------------------------------------------------------------

namespace Spelled

open Linked

/- Paths in strange spellings, and a blank source root. -/
def config : Config where
  sourceRoot := " "
  linters :=
    [ { key := .cpp
        roots := ["./src/", "../..", "\x7broot\x7d\x7broot\x7d//x"]
        extensions := ["h"]
        command := "\x7broot\x7d/../bin/lint"
        args := []
        env := .ofList [("TOP", "\x7broot\x7d")]
        cwd := some "/a/../\x7broot\x7d/."
        policy := .quiet } ]
  blacklist := []

/- The linter, resolved at the top of the work tree. -/
def linter : Linter where
  key := .cpp
  roots := ["/repo/src", "/", "/repo/repo/x"]
  extensions := ["h"]
  program := "/bin/lint"
  args := []
  env := .ofList [("TOP", "/repo")]
  cwd := some "/repo"
  policy := .quiet

/- The work tree supplies the source root. -/
theorem findSourceRoot_link :
    config.findSourceRoot tree session "/link" = "/repo" := by
  have hBlank : Text.isBlankText config.sourceRoot = true := by decide
  unfold Config.findSourceRoot
  rw [if_pos hBlank, discover_of_locate locate_link]

theorem startsAbsolute_link :
    config.StartsAbsolute tree session "/link" := by
  refine ⟨by decide, ?_⟩
  intro _ top hTop
  rw [discover_of_locate locate_link] at hTop
  cases hTop
  decide

end Spelled

open Linked Spelled in
theorem strange_spellings_resolve_at_work_tree :
    config.StartsAbsolute tree session "/link" ∧
    config.findSourceRoot tree session "/link" = "/repo" ∧
    Registry.ofConfig config "/repo" = .ok [linter] ∧
    List.Forall₂ LinterConfig.ResolvesTo config.linters [linter] := by
  have hValid : config.validate = .ok () := rfl
  have hLinter : Registry.ofConfig config "/repo" = .ok [linter] := by
    decide
  rcases valid_config_resolves_at_source_root config tree session
      "/link" startsAbsolute_link with
    ⟨_, _, hResolves⟩
  rcases hResolves hValid with ⟨registry, hRegistry, hLinters⟩
  rw [findSourceRoot_link, hLinter] at hRegistry
  cases hRegistry
  exact ⟨startsAbsolute_link, findSourceRoot_link, hLinter, hLinters⟩

end TreeLint
