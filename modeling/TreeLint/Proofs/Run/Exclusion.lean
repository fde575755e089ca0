import TreeLint.Proofs.Config.SourceRoot
import TreeLint.Proofs.FileTree.Located
import TreeLint.Proofs.FileTree.Selected
import TreeLint.Proofs.Path.Readings
import TreeLint.Proofs.Run.Turns

/-
  What the blacklist takes away from the files of a linter.

  Key theorems include:
    * `PathSet.holds_resolved_iff`
    * `FileTree.filterFiles_of_blacklist`
    * `blacklist_removes_exactly_named_files`

  However the roots of a linter and the entries of the
  blacklist are spelled, the walk only meets places, and every
  entry names one place.  A file is taken away exactly if an
  entry names the place where it lies.
-/

------------------------------------------------------------
-- Resolved Sets
------------------------------------------------------------

namespace TreeLint

/- On places, a resolved set holds what its entries name. -/
theorem PathSet.holds_resolved_iff
    {base : Path}
    {entries : List Path}
    {place : Location}
    (hBase : base.isAbsolute = true)
    (hPlace : place.IsProper) :
    (PathSet.resolved base entries).holds place.toPath = true ↔
      ∃ entry ∈ entries, base.placeNamed entry = place := by
  have hEntry :
      ∀ entry,
        (base.resolve entry).parts = place.toPath.parts ↔
          base.placeNamed entry = place := by
    intro entry
    rw [Path.resolve_eq_toPath hBase, Location.parts_toPath hPlace,
      Location.parts_toPath (Path.isProper_placeNamed base entry)]
    simp
  simp [PathSet.holds, PathSet.resolved, hEntry]

------------------------------------------------------------
-- Selections
------------------------------------------------------------

namespace FileTree

variable {t : FileTree} {cwd : Location}
variable {accepts : Path → Bool} {roots : List Path}

/- What is selected without a blacklist is only thinned by one. -/
theorem filterFiles_of_blacklist
    (blacklist : PathSet)
    (filter : ChangeFilter) :
    t.filterFiles cwd accepts blacklist filter roots =
      (t.filterFiles cwd accepts [] filter roots).map
        (List.filter fun file => !blacklist.holds file) := by
  by_cases hFilter : filter = .activeEmpty
  · subst hFilter
    rfl
  · rw [filterFiles_of_ne_activeEmpty hFilter,
      filterFiles_of_ne_activeEmpty hFilter]
    cases t.matchingAll cwd accepts roots with
    | error error => rfl
    | ok all =>
      simp [Except.map, List.filter_filter, PathSet.holds]

end FileTree

------------------------------------------------------------
-- Blacklists
------------------------------------------------------------

/- An entry of the blacklist, read from the root, names a file. -/
def Config.Excludes (config : Config) (root file : Path) : Prop :=
  ∃ entry ∈ config.blacklist, (root.placeNamed entry).toPath = file

instance (config : Config) (root file : Path) :
    Decidable (config.Excludes root file) :=
  inferInstanceAs (Decidable (∃ entry ∈ config.blacklist, _))

/- Among places, the blacklist holds those that it names. -/
theorem Config.holds_blacklist_iff
    {config : Config}
    {root : Path}
    {place : Location}
    (hAbsolute : root.isAbsolute = true)
    (hPlace : place.IsProper) :
    (PathSet.resolved root config.blacklist).holds place.toPath =
        true ↔
      config.Excludes root place.toPath := by
  rw [PathSet.holds_resolved_iff hAbsolute hPlace]
  unfold Config.Excludes
  constructor
  · rintro ⟨entry, hEntry, rfl⟩
    exact ⟨entry, hEntry, rfl⟩
  · rintro ⟨entry, hEntry, hText⟩
    exact
      ⟨entry, hEntry,
        Location.toPath_injective
          (Path.isProper_placeNamed root entry) hPlace hText⟩

/-
  The blacklist of a configuration takes a file that the walk
  of a root has met away exactly if one of its entries, read
  from the source root, names the file.  What a linter is left
  with are the files that it would be given without a
  blacklist, in the same order and without those that are
  named.
-/
theorem blacklist_removes_exactly_named_files
    (config : Config)
    (root : Path)
    (t : FileTree)
    (session : Session)
    (filter : ChangeFilter)
    (selection : List Language)
    (onlyChanged dryRun : Bool)
    (hAbsolute : root.isAbsolute = true)
    (hNames : t.WellNamed) :
    let task := config.task root selection onlyChanged dryRun
    let unlisted := { task with blacklist := [] }
    ∀ linter ∈ task.registry,
      (∀ directory ∈ linter.roots, ∀ file,
        .file file ∈ t.walk session.cwd directory →
        (task.blacklist.holds file = true ↔
          config.Excludes root file)) ∧
      task.filesFor t session filter linter =
        (unlisted.filesFor t session filter linter).map
          (List.filter fun file =>
            !decide (config.Excludes root file)) := by
  intro task unlisted linter hLinter
  rcases List.mem_map.mp hLinter with ⟨configured, _, rfl⟩
  have hRoots :
      ∀ directory ∈ (Linter.resolve root configured).roots,
        ∃ place : Location,
          place.IsProper ∧ directory = place.toPath := by
    intro directory hDirectory
    rcases List.mem_map.mp hDirectory with ⟨spelled, _, rfl⟩
    exact Path.exists_place_of_resolve _ hAbsolute
  refine ⟨?_, ?_⟩
  · intro directory hDirectory file hFile
    rcases hRoots directory hDirectory with ⟨place, hPlace, rfl⟩
    rcases FileTree.place_of_mem_walk hNames hPlace hFile with
      ⟨below, hBelow, hPath⟩
    rw [WalkItem.path] at hPath
    rw [hPath]
    exact Config.holds_blacklist_iff hAbsolute hBelow
  · have hThinned :
        task.filesFor t session filter (Linter.resolve root configured) =
          (unlisted.filesFor t session filter
              (Linter.resolve root configured)).map
            (List.filter fun file => !task.blacklist.holds file) :=
      FileTree.filterFiles_of_blacklist task.blacklist filter
    rw [hThinned]
    cases hFiles :
        unlisted.filesFor t session filter
          (Linter.resolve root configured) with
    | error error => rfl
    | ok files =>
      have hSame :
          ∀ file ∈ files,
            (!task.blacklist.holds file) =
              !decide (config.Excludes root file) := by
        intro file hFile
        rcases FileTree.place_of_mem_filterFiles hNames hRoots hFiles
            hFile with
          ⟨place, below, _, hPlace, rfl⟩
        have hIff :
            task.blacklist.holds (Location.toPath (place ++ below)) =
                true ↔
              config.Excludes root (Location.toPath (place ++ below)) :=
          Config.holds_blacklist_iff hAbsolute hPlace
        simp only [← hIff, Bool.decide_eq_true]
      simp only [Except.map]
      rw [List.filter_congr hSame]

------------------------------------------------------------
-- A Blacklist In Strange Spellings
------------------------------------------------------------

namespace StrangeSpellings

/- Two directories with one header each. -/
def tree : FileTree where
  nodes :=
    [ (["r"], .directory),
      (["r", "atom"], .directory),
      (["r", "atom", "x.h"], .file [] false),
      (["r", "gen"], .directory),
      (["r", "gen", "x.h"], .file [] false) ]

def session : Session := ⟨[], []⟩

/- The source root, with a detour. -/
def root : Path := "/r//lib/../"

/- Both directories, with detours. -/
def configured : LinterConfig :=
  { Config.cppLinter with
    roots := ["\x7broot\x7d/lib/..//atom/", "./gen/."] }

/-
  One entry names the first header on a long way.  The other
  one would name the second header if the source root were
  the root.
-/
def config : Config where
  sourceRoot := root
  blacklist := ["./gen/..//atom/./x.h/", "/../gen/x.h"]
  linters := [configured]

def task : Task := config.task root [] false false

/- The one linter, resolved. -/
def linter : Linter := Linter.resolve root configured

theorem walk_atom :
    tree.walk session.cwd "/r/atom" = [.file "/r/atom/x.h"] := by
  have hRoot : tree.locateEntry [] "/r/atom" = .ok ["r", "atom"] :=
    @FileTree.locateEntry_of_isPlain tree [] ["r", "atom"] .directory
      (by decide) rfl
  have hNames : tree.names ["r", "atom"] = ["x.h"] := by
    simp [FileTree.names, tree, FileTree.childName?]
    rfl
  exact FileTree.walk_of_lone_file hRoot rfl hNames rfl

theorem walk_gen :
    tree.walk session.cwd "/r/gen" = [.file "/r/gen/x.h"] := by
  have hRoot : tree.locateEntry [] "/r/gen" = .ok ["r", "gen"] :=
    @FileTree.locateEntry_of_isPlain tree [] ["r", "gen"] .directory
      (by decide) rfl
  have hNames : tree.names ["r", "gen"] = ["x.h"] := by
    simp [FileTree.names, tree, FileTree.childName?]
    rfl
  exact FileTree.walk_of_lone_file hRoot rfl hNames rfl

theorem roots_linter : linter.roots = ["/r/atom", "/r/gen"] := by
  decide

/- Without a blacklist, the linter would be given both headers. -/
theorem filesFor_unlisted :
    { task with blacklist := [] }.filesFor tree session .inactive
        linter =
      .ok ["/r/atom/x.h", "/r/gen/x.h"] := by
  have hFirst : linter.accepts "/r/atom/x.h" = true := by decide
  have hSecond : linter.accepts "/r/gen/x.h" = true := by decide
  unfold Task.filesFor
  rw [roots_linter, FileTree.filterFiles_of_ne_activeEmpty (by simp)]
  simp [FileTree.matchingAll, FileTree.matching, walk_atom, walk_gen,
    collect, hFirst, hSecond, Except.map, PathSet.holds,
    ChangeFilter.admits]

end StrangeSpellings

open StrangeSpellings in
theorem header_excluded_in_strange_spelling :
    root.isAbsolute = true ∧
    tree.WellNamed ∧
    linter ∈ task.registry ∧
    linter.roots = ["/r/atom", "/r/gen"] ∧
    .file "/r/atom/x.h" ∈ tree.walk session.cwd "/r/atom" ∧
    task.blacklist.holds "/r/atom/x.h" = true ∧
    .file "/r/gen/x.h" ∈ tree.walk session.cwd "/r/gen" ∧
    task.blacklist.holds "/r/gen/x.h" = false ∧
    task.filesFor tree session .inactive linter =
      .ok ["/r/gen/x.h"] := by
  have hAbsolute : root.isAbsolute = true := by decide
  have hNames : tree.WellNamed := by decide
  have hLinter : linter ∈ task.registry := List.mem_singleton.mpr rfl
  have hFirst :
      .file "/r/atom/x.h" ∈ tree.walk session.cwd "/r/atom" := by
    simp [walk_atom]
  have hSecond :
      .file "/r/gen/x.h" ∈ tree.walk session.cwd "/r/gen" := by
    simp [walk_gen]
  have hExcluded : config.Excludes root "/r/atom/x.h" := by decide
  have hKept : ¬ config.Excludes root "/r/gen/x.h" := by decide
  rcases blacklist_removes_exactly_named_files config root tree session
      .inactive [] false false hAbsolute hNames linter hLinter with
    ⟨hHolds, hFiles⟩
  refine
    ⟨hAbsolute, hNames, hLinter, roots_linter, hFirst, ?_, hSecond, ?_,
      ?_⟩
  · exact
      (hHolds _ (by simp [roots_linter]) _ hFirst).mpr hExcluded
  · rw [Bool.eq_false_iff, ne_eq]
    exact fun hHeld =>
      hKept ((hHolds _ (by simp [roots_linter]) _ hSecond).mp hHeld)
  · refine hFiles.trans ?_
    exact
      (congrArg _ filesFor_unlisted).trans
        (by simp [Except.map, hExcluded, hKept])

end TreeLint
