import Mathlib.Data.Finset.Card
import TreeLint.Proofs.FileTree.Stages
import TreeLint.Proofs.FileTree.Ways
import TreeLint.Proofs.Run.Feeding

/-
  No file twice.

  Key definitions include:
    * `Path.Apart`
    * `Path.distinctCount`

  Key theorems include:
    * `FileTree.parts_prefix_of_mem_walk`
    * `FileTree.distinct_passing`
    * `FileTree.distinct_filterFiles`
    * `no_file_handed_over_twice`

  Paths are compared part by part, so `/r/lib` is not above
  `/r/lib2`.  What a walk finds starts with the parts of its
  root.  Where no root is above another, no path can therefore
  come from two of them, and within one walk none comes twice.
-/

------------------------------------------------------------
-- Roots Apart
------------------------------------------------------------

namespace TreeLint

namespace Path

/- Neither of two paths is the other one or above it. -/
def Apart (p q : Path) : Prop :=
  ¬ p.parts <+: q.parts ∧ ¬ q.parts <+: p.parts

instance (p q : Path) : Decidable (Apart p q) :=
  inferInstanceAs (Decidable (_ ∧ _))

/- What starts with the parts of paths that are apart differs. -/
theorem Apart.ne_of_prefix
    {p q : Path}
    {parts others : List String}
    (hApart : Apart p q)
    (hLeft : p.parts <+: parts)
    (hRight : q.parts <+: others) :
    parts ≠ others := by
  rintro rfl
  rcases List.prefix_or_prefix_of_prefix hLeft hRight with hAbove | hBelow
  · exact hApart.1 hAbove
  · exact hApart.2 hBelow

/- The number of different paths, compared part by part. -/
def distinctCount (files : List Path) : Nat :=
  (files.map parts).toFinset.card

theorem distinctCount_of_nodup
    {files : List Path}
    (hNodup : (files.map parts).Nodup) :
    distinctCount files = files.length := by
  rw [distinctCount, List.toFinset_card_of_nodup hNodup,
    List.length_map]

end Path

------------------------------------------------------------
-- Selections
------------------------------------------------------------

namespace FileTree

section

variable {t : FileTree} {cwd : Location} {roots files : List Path}

/- An item of a walk has the parts of the root in front. -/
theorem parts_prefix_of_mem_walk
    {root : Path}
    {item : WalkItem}
    (hNames : t.WellNamed)
    (hItem : item ∈ t.walk cwd root) :
    root.parts <+: item.path.parts := by
  rcases path_of_mem_walk hNames hItem with ⟨names, hProper, hPath⟩
  by_cases hRoot : root = ""
  · -- Nothing is joined to the empty path, since it leads nowhere.
    have hNone : t.resolved? cwd root = none := by
      rw [hRoot]
      simp [resolved?, locate, pathFault?]
    rcases walk_of_unresolved hNone with ⟨error, hWalk⟩
    rw [hWalk] at hItem
    rw [List.mem_singleton.mp hItem]
    exact List.prefix_rfl
  · rw [hPath, Path.parts_foldl_join hRoot hProper]
    exact List.prefix_append _ _

/-
  The files that pass differ: those below one root because the
  items of a walk do, those below two because the roots are
  apart.
-/
theorem distinct_passing
    (hNames : t.WellNamed)
    (hRoots : roots.Pairwise Path.Apart)
    (test : Path → Bool) :
    ((t.passing cwd test roots).map Path.parts).Nodup := by
  unfold passing
  refine List.pairwise_map.mpr (List.pairwise_flatMap.mpr ⟨?_, ?_⟩)
  · intro root hRoot
    have hItems := List.pairwise_map.mp (t.nodup_parts_walk cwd root hNames)
    refine (hItems.filterMap WalkItem.file? ?_).filter _
    intro x y hNe p hP q hQ
    rw [WalkItem.file?_eq_some_iff.mp hP,
      WalkItem.file?_eq_some_iff.mp hQ] at hNe
    simpa only [WalkItem.path] using hNe
  · have hPrefix :
        ∀ {root p : Path},
          p ∈ ((t.walk cwd root).filterMap WalkItem.file?).filter test →
          root.parts <+: p.parts := by
      intro root p hP
      rcases List.mem_filterMap.mp (List.mem_filter.mp hP).1 with
        ⟨item, hItem, hFile⟩
      have hFront := parts_prefix_of_mem_walk hNames hItem
      rw [WalkItem.file?_eq_some_iff.mp hFile] at hFront
      simpa only [WalkItem.path] using hFront
    apply hRoots.imp
    intro root other hApart p hP q hQ
    exact hApart.ne_of_prefix (hPrefix hP) (hPrefix hQ)

theorem distinct_filterFiles
    {accepts : Path → Bool}
    {blacklist : PathSet}
    {filter : ChangeFilter}
    (hNames : t.WellNamed)
    (hRoots : roots.Pairwise Path.Apart)
    (hFiles :
      t.filterFiles cwd accepts blacklist filter roots = .ok files) :
    (files.map Path.parts).Nodup := by
  by_cases hFilter : filter = .activeEmpty
  · subst hFilter
    cases hFiles
    exact List.nodup_nil
  · rw [((filterFiles_eq_ok_iff hFilter).mp hFiles).2]
    exact distinct_passing hNames hRoots _

end

end FileTree

------------------------------------------------------------
-- Runs
------------------------------------------------------------

/-
  Where no root is above another, no path is selected twice,
  however the tree is linked.  So no linter is started with a
  file twice, and the number in an announcement is that of the
  different files that were found for the linter.
-/
theorem no_file_handed_over_twice :
    (∀ (t : FileTree) cwd accepts blacklist filter roots files,
      t.WellNamed →
      roots.Pairwise Path.Apart →
      t.filterFiles cwd accepts blacklist filter roots = .ok files →
      (files.map Path.parts).Nodup) ∧
    ∀ {σ : Type} (host : Host σ) session state (task : Task),
      (∀ current, (host.files current).WellNamed) →
      (∀ linter ∈ task.registry.select task.selection,
        linter.roots.Pairwise Path.Apart) →
      (∀ before invocation behind,
        (task.run host session state).events =
          before ++ .started invocation :: behind →
        ∃ linter ∈ task.registry.select task.selection,
        ∃ files earlier,
          invocation.args = linter.args ++ files ∧
          (files.map Path.parts).Nodup ∧
          before =
            earlier ++
              [.announced
                (linter.announcement (Path.distinctCount files))]) ∧
      ∀ message,
        .announced message ∈ (task.run host session state).events →
        ∃ linter ∈ task.registry.select task.selection,
        ∃ filter current files,
          task.filesFor (host.files current) session filter linter =
            .ok files ∧
          (files.map Path.parts).Nodup ∧
          message = linter.announcement (Path.distinctCount files) := by
  constructor
  · intro t cwd accepts blacklist filter roots files hNames hRoots hFiles
    exact FileTree.distinct_filterFiles hNames hRoots hFiles
  intro σ host session state task hNames hRoots
  have hDistinct :
      ∀ {linter filter current files},
        linter ∈ task.registry.select task.selection →
        task.filesFor (host.files current) session filter linter =
          .ok files →
        (files.map Path.parts).Nodup := by
    intro linter filter current files hLinter hFiles
    exact
      FileTree.distinct_filterFiles (hNames current)
        (hRoots linter hLinter) hFiles
  constructor
  · intro before invocation behind hSplit
    rcases Task.start_of_events_run hSplit with
      ⟨linter, hLinter, filter, _, current, files, program, earlier,
        _, hFiles, _, hInvocation, hBefore⟩
    have hNodup := hDistinct hLinter hFiles
    refine ⟨linter, hLinter, files, earlier, ?_, hNodup, ?_⟩
    · rw [hInvocation]
      rfl
    · rw [Path.distinctCount_of_nodup hNodup]
      exact hBefore
  · intro message hMessage
    rcases Task.files_of_announced hMessage with
      ⟨linter, hLinter, filter, current, files, hFiles, _, hCount⟩
    have hNodup := hDistinct hLinter hFiles
    refine
      ⟨linter, hLinter, filter, current, files, hFiles, hNodup, ?_⟩
    rw [Path.distinctCount_of_nodup hNodup]
    exact hCount

------------------------------------------------------------
-- Two Roots And A Link
------------------------------------------------------------

namespace SideBySide

/-
  Two directories, the name of the one in front of that of the
  other, and a link from the second to the first.
-/
def tree : FileTree where
  nodes :=
    [ (["r"], .directory),
      (["r", "lib"], .directory),
      (["r", "lib", "x.py"], .file [] false),
      (["r", "lib2"], .directory),
      (["r", "lib2", "again"], .link "/r/lib"),
      (["lint"], .file [] true) ]

/- Programs pass and leave the tree alone. -/
def host : Host Unit where
  files := fun _ => tree
  start := fun _ _ => (some ⟨some 0, [], []⟩, ())

def session : Session := ⟨[], []⟩

def linter : Linter where
  key := .python
  roots := ["/r/lib", "/r/lib2"]
  extensions := ["py"]
  program := "/lint"
  args := []
  env := .empty
  cwd := none
  policy := .exitStatus

def task : Task where
  sourceRoot := "/r"
  registry := [linter]
  blacklist := []
  selection := []
  onlyChanged := false
  dryRun := false

def files : List Path := ["/r/lib/x.py", "/r/lib2/again/x.py"]

theorem names_lib :
    tree.names ["r", "lib"] = ["x.py"] := by
  simp [FileTree.names, tree, FileTree.childName?]
  rfl

theorem names_lib2 :
    tree.names ["r", "lib2"] = ["again"] := by
  simp [FileTree.names, tree, FileTree.childName?]
  rfl

theorem walk_lib :
    tree.walk [] "/r/lib" = [.file "/r/lib/x.py"] := by
  have hRoot : tree.locateEntry [] "/r/lib" = .ok ["r", "lib"] :=
    @FileTree.locateEntry_of_isPlain tree [] ["r", "lib"] .directory
      (by decide) rfl
  exact FileTree.walk_of_lone_file hRoot rfl names_lib rfl

theorem entered?_link :
    tree.entered? [] [["r", "lib2"]] (Path.join "/r/lib2" "again")
        (["r", "lib2"] ++ ["again"]) =
      some ["r", "lib"] := by
  have hDest :
      tree.resolved? [] "/r/lib2/again" = some (["r", "lib"], .directory) :=
    @FileTree.resolved?_of_link tree [] ["r", "lib2"] ["r", "lib"] "again" _
      (by decide) rfl (by decide) (by decide) rfl rfl
  refine FileTree.entered?_eq_some_iff.mpr (.inr ⟨⟨"/r/lib", rfl⟩, ?_, ?_⟩)
  · exact FileTree.directory?_eq_some_iff.mpr hDest
  · decide

theorem walk_lib2 :
    tree.walk [] "/r/lib2" = [.file "/r/lib2/again/x.py"] := by
  have hRoot :
      tree.resolved? [] "/r/lib2" = some (["r", "lib2"], .directory) :=
    @FileTree.resolved?_of_isPlain tree [] ["r", "lib2"] _ (by decide) rfl
      rfl
  rw [FileTree.walk_of_directory (FileTree.directory?_eq_some_iff.mpr hRoot),
    FileTree.visit_eq_branches, names_lib2, List.flatMap_singleton,
    FileTree.branch_of_entered entered?_link,
    FileTree.visit_eq_branches, names_lib, List.flatMap_singleton]
  rfl

theorem filesFor_linter :
    task.filesFor tree session .inactive linter = .ok files := by
  have hFree :
      ∀ root ∈ linter.roots, FaultFree (tree.walk [] root) := by
    simp [linter, FaultFree, walk_lib, walk_lib2]
  have hFirst :
      passesTests linter.accepts [] .inactive "/r/lib/x.py" = true := by
    decide
  have hSecond :
      passesTests linter.accepts [] .inactive "/r/lib2/again/x.py" =
        true := by
    decide
  have hPassing :
      files =
        tree.passing [] (passesTests linter.accepts [] .inactive)
          ["/r/lib", "/r/lib2"] := by
    simp [FileTree.passing, walk_lib, walk_lib2, WalkItem.file?, hFirst,
      hSecond, files]
  exact
    (FileTree.filterFiles_eq_ok_iff (by simp)).mpr ⟨hFree, hPassing⟩

theorem events_run :
    (task.run host session ()).events =
      [ .announced "linting 2 python files",
        .started ⟨"/lint", files, [], "/"⟩ ] := by
  have hFile : tree.isProgram session.cwd "/lint" = true :=
    @FileTree.isProgram_of_isPlain tree session.cwd ["lint"] []
      (by decide) rfl
  have hProgram : Program.find? tree session "/lint" = some "/lint" := by
    rw [Program.find?_of_isAbsolute tree session (by decide)
        (by decide),
      hFile]
    rfl
  have hRun :
      task.run host session () =
        runLinters host session task .inactive [linter] () := by
    rfl
  have hTurn :
      TurnOf host session task .inactive linter ()
        (.finished ⟨linter, files, "/lint", ⟨some 0, [], []⟩⟩) () :=
    .finished (by simp [files]) filesFor_linter rfl hProgram rfl
  rw [hRun, runLinters_cons hTurn]
  rfl

end SideBySide

/-
  The linked file is found under both roots, and handed over
  once under each of its two paths.
-/
open SideBySide in
theorem linked_file_handed_over_once_a_path :
    tree.WellNamed ∧
    linter.roots.Pairwise Path.Apart ∧
    tree.filterFiles [] linter.accepts [] .inactive linter.roots =
      .ok files ∧
    (files.map Path.parts).Nodup ∧
    ∃ linter ∈ task.registry.select task.selection,
    ∃ given,
      files = linter.args ++ given ∧
      (given.map Path.parts).Nodup ∧
      "linting 2 python files" =
        linter.announcement (Path.distinctCount given) := by
  have hNames : tree.WellNamed := by decide
  have hRoots : linter.roots.Pairwise Path.Apart := by decide
  have hSelected :
      ∀ other ∈ task.registry.select task.selection,
        other.roots.Pairwise Path.Apart := by
    decide
  rcases no_file_handed_over_twice with ⟨hSelection, hRun⟩
  have hDistinct :=
    hSelection tree [] linter.accepts [] .inactive linter.roots files
      hNames hRoots filesFor_linter
  rcases (hRun host session () task (fun _ => hNames) hSelected).1
      [.announced "linting 2 python files"] _ [] events_run with
    ⟨other, hOther, given, earlier, hArgs, hNodup, hBefore⟩
  have hAnnounced :
      "linting 2 python files" =
        other.announcement (Path.distinctCount given) := by
    cases earlier with
    | nil => simpa using hBefore
    | cons first earlier => simp at hBefore
  exact
    ⟨hNames, hRoots, filesFor_linter, hDistinct, other, hOther, given,
      hArgs, hNodup, hAnnounced⟩

end TreeLint
