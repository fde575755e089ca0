import TreeLint.Command.Basic
import TreeLint.Proofs.Path.Canonical

/-
  What a configuration comes to at its source root.

  Key definitions include:
    * `Config.StartsAbsolute`
    * `Config.task`

  Key theorems include:
    * `Repository.exists_normalize_of_discover`
    * `Config.exists_place_of_findSourceRoot`
    * `Config.ofConfig_eq_ok`
    * `Linter.exists_place_of_mem_roots`

  Seen from an absolute path, the source root is a place, and
  so is every root of a linter that is resolved against it,
  however the configuration spells them.
-/

------------------------------------------------------------
-- Tops Of Work Trees
------------------------------------------------------------

namespace TreeLint

namespace Repository

theorem exists_normalize_of_usable
    {t : FileTree}
    {cwd : Location}
    {top found : Path}
    (hUsable :
      (if isUsable t cwd found then
          Except.ok (Path.normalize found)
        else
          Except.error DiscoveryError.noRepository) =
        Except.ok top) :
    ∃ p : Path, top = p.normalize := by
  split at hUsable
  · exact ⟨found, (Except.ok.inj hUsable).symm⟩
  · cases hUsable

/- However a work tree is found, its top is normalized. -/
theorem exists_normalize_of_workTop
    {t : FileTree}
    {session : Session}
    {admin : Admin}
    {top : Path}
    (hTop : workTop t session admin = .ok top) :
    ∃ p : Path, top = p.normalize := by
  unfold workTop at hTop
  split at hTop
  · cases hTop
  · simp only at hTop
    split at hTop
    · cases hTop
    · cases hTop
    · cases hTop
    · exact exists_normalize_of_usable hTop
    · cases hTop
    · split at hTop
      · exact exists_normalize_of_usable hTop
      · cases hTop
      · split at hTop
        · exact exists_normalize_of_usable hTop
        · cases hTop

theorem exists_normalize_of_discover
    {t : FileTree}
    {session : Session}
    {p top : Path}
    (hTop : discover t session p = .ok top) :
    ∃ q : Path, top = q.normalize := by
  unfold discover at hTop
  split at hTop
  · cases hTop
  · unfold openAt at hTop
    split at hTop
    · cases hTop
    · split at hTop
      · exact exists_normalize_of_workTop hTop
      · cases hTop

/- An absolute top of a work tree is a place. -/
theorem exists_place_of_discover
    {t : FileTree}
    {session : Session}
    {p top : Path}
    (hTop : discover t session p = .ok top)
    (hAbsolute : top.isAbsolute = true) :
    ∃ place : Location, place.IsProper ∧ top = place.toPath := by
  rcases exists_normalize_of_discover hTop with ⟨q, rfl⟩
  exact
    Path.exists_place_of_isAbsolute
      (by simpa using hAbsolute)

end Repository

------------------------------------------------------------
-- Source Roots
------------------------------------------------------------

namespace Config

/-
  The source root is looked for from an absolute path, and a
  work tree that supplies it is one with an absolute top.
-/
structure StartsAbsolute
    (config : Config)
    (t : FileTree)
    (session : Session)
    (start : Path) : Prop where
  absolute : start.isAbsolute = true
  absoluteTop :
    Text.isBlankText config.sourceRoot = true →
      ∀ top,
        Repository.discover t session start = .ok top →
          top.isAbsolute = true

theorem exists_place_of_findSourceRoot
    {config : Config}
    {t : FileTree}
    {session : Session}
    {start : Path}
    (hStart : config.StartsAbsolute t session start) :
    ∃ place : Location,
      place.IsProper ∧
        config.findSourceRoot t session start = place.toPath := by
  unfold findSourceRoot
  split
  · next hBlank =>
    split
    · next top hTop =>
      exact
        Repository.exists_place_of_discover hTop
          (hStart.absoluteTop hBlank top hTop)
    · exact Path.exists_place_of_isAbsolute hStart.absolute
  · exact Path.exists_place_of_resolve _ hStart.absolute

------------------------------------------------------------
-- Tasks Of Configurations
------------------------------------------------------------

/- What a configuration asks to be done at a source root. -/
def task
    (config : Config)
    (root : Path)
    (selection : List Language)
    (onlyChanged dryRun : Bool) : Task where
  registry := config.linters.map (Linter.resolve root)
  blacklist := PathSet.resolved root config.blacklist
  sourceRoot := root
  selection := selection
  onlyChanged := onlyChanged
  dryRun := dryRun

/- The linters of a valid configuration can all be resolved. -/
theorem ofConfig_eq_ok
    {config : Config}
    (hValid : config.validate = .ok ())
    (root : Path) :
    Registry.ofConfig config root =
      .ok (config.linters.map (Linter.resolve root)) := by
  unfold Registry.ofConfig
  rw [hValid]

end Config

/- Every root of a resolved linter is a place. -/
theorem Linter.exists_place_of_mem_roots
    {config : LinterConfig}
    {place : Location}
    {root : Path}
    (hRoot : root ∈ (Linter.resolve place.toPath config).roots) :
    ∃ loc : Location, loc.IsProper ∧ root = loc.toPath := by
  rcases List.mem_map.mp hRoot with ⟨directory, _, rfl⟩
  exact Path.exists_place_of_resolve _ (Location.isAbsolute_toPath place)

end TreeLint
