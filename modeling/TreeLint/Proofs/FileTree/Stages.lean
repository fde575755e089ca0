import TreeLint.Path.Extension
import TreeLint.Proofs.FileTree.Located
import TreeLint.Proofs.FileTree.Selected

/-
  The stages of a selection.

  Key definitions include:
    * `FaultFree`
    * `FirstFault`
    * `FileTree.IsFirstError`
    * `FileTree.passing`

  Key theorems include:
    * `collect_eq_ok_iff`
    * `collect_eq_error_iff`
    * `FileTree.matchingAll_eq_ok_iff`
    * `FileTree.matchingAll_eq_error_iff`
    * `selection_passes_three_stages`

  A selection walks its roots in order, and keeps of each walk
  the files that are accepted, that no blacklist holds and
  that a change filter lets pass.  Which files these are has
  no part in its errors: the first fault of the first walk
  with one is the error, whatever its path.
-/

------------------------------------------------------------
-- Faults
------------------------------------------------------------

namespace TreeLint

/- None of the items of a walk is a fault. -/
def FaultFree (items : List WalkItem) : Prop :=
  ∀ fault path, .fault fault path ∉ items

/- Of the items of a walk, this is the fault that comes first. -/
def FirstFault
    (items : List WalkItem)
    (fault : WalkFault)
    (path : Path) : Prop :=
  ∃ (files : List Path) (later : List WalkItem),
    items = files.map .file ++ .fault fault path :: later

theorem faultFree_cons_file_iff
    {path : Path}
    {items : List WalkItem} :
    FaultFree (.file path :: items) ↔ FaultFree items := by
  simp [FaultFree]

theorem firstFault_cons_fault_iff
    {fault first : WalkFault}
    {path firstPath : Path}
    {items : List WalkItem} :
    FirstFault (.fault first firstPath :: items) fault path ↔
      fault = first ∧ path = firstPath := by
  constructor
  · rintro ⟨files, later, hItems⟩
    cases files with
    | nil =>
      cases hItems
      exact ⟨rfl, rfl⟩
    | cons file files => cases hItems
  · rintro ⟨rfl, rfl⟩
    exact ⟨[], items, rfl⟩

theorem firstFault_cons_file_iff
    {fault : WalkFault}
    {file path : Path}
    {items : List WalkItem} :
    FirstFault (.file file :: items) fault path ↔
      FirstFault items fault path := by
  constructor
  · rintro ⟨files, later, hItems⟩
    cases files with
    | nil => cases hItems
    | cons first files =>
      cases hItems
      exact ⟨files, later, rfl⟩
  · rintro ⟨files, later, rfl⟩
    exact ⟨file :: files, later, rfl⟩

theorem FirstFault.not_faultFree
    {items : List WalkItem}
    {fault : WalkFault}
    {path : Path}
    (hFault : FirstFault items fault path) :
    ¬ FaultFree items := by
  rcases hFault with ⟨files, later, rfl⟩
  intro hFree
  exact hFree fault path (by simp)

------------------------------------------------------------
-- Collecting
------------------------------------------------------------

section

variable {root : Path} {accepts : Path → Bool}
variable {items : List WalkItem}

/- Collecting succeeds exactly where there is no fault. -/
theorem collect_eq_ok_iff
    {files : List Path} :
    collect root accepts items = .ok files ↔
      FaultFree items ∧
        files = (items.filterMap WalkItem.file?).filter accepts := by
  constructor
  · intro hFiles
    refine ⟨?_, collect_eq_ok hFiles⟩
    induction items generalizing files with
    | nil => simp [FaultFree]
    | cons item rest ih =>
      cases item with
      | fault fault path => cases hFiles
      | file path =>
        simp only [collect] at hFiles
        split at hFiles
        · cases hFiles
        · next others hOthers =>
          exact faultFree_cons_file_iff.mpr (ih hOthers)
  · rintro ⟨hFree, rfl⟩
    cases hCollected : collect root accepts items with
    | error error =>
      rcases exists_fault_of_collect_eq_error hCollected with
        ⟨fault, path, hFault, _⟩
      exact absurd hFault (hFree fault path)
    | ok files => rw [collect_eq_ok hCollected]

/- The error of collecting is the first fault, accepted or not. -/
theorem collect_eq_error_iff
    {error : WalkError} :
    collect root accepts items = .error error ↔
      error.root = root ∧
        FirstFault items error.fault error.path := by
  obtain ⟨from', fault, path⟩ := error
  induction items with
  | nil => simp [collect, FirstFault]
  | cons item rest ih =>
    cases item with
    | fault first firstPath =>
      rw [firstFault_cons_fault_iff, collect]
      simp only [Except.error.injEq, WalkError.mk.injEq]
      constructor
      · rintro ⟨rfl, rfl, rfl⟩
        exact ⟨rfl, rfl, rfl⟩
      · rintro ⟨rfl, rfl, rfl⟩
        exact ⟨rfl, rfl, rfl⟩
    | file file =>
      rw [firstFault_cons_file_iff, ← ih, collect]
      cases collect root accepts rest with
      | error found => rfl
      | ok others => simp

end

------------------------------------------------------------
-- Several Roots
------------------------------------------------------------

namespace FileTree

/- The fault that comes first, root after root. -/
def IsFirstError
    (t : FileTree)
    (cwd : Location)
    (roots : List Path)
    (error : WalkError) : Prop :=
  ∃ before after,
    roots = before ++ error.root :: after ∧
    (∀ root ∈ before, FaultFree (t.walk cwd root)) ∧
    FirstFault (t.walk cwd error.root) error.fault error.path

/-
  The walked files that pass every test, root after root and
  within a root in the order of its walk.
-/
def passing
    (t : FileTree)
    (cwd : Location)
    (test : Path → Bool)
    (roots : List Path) : List Path :=
  roots.flatMap fun root =>
    ((t.walk cwd root).filterMap WalkItem.file?).filter test

section

variable {t : FileTree} {cwd : Location}
variable {accepts : Path → Bool} {blacklist : PathSet}
variable {roots files : List Path}

theorem filter_passing
    (test keep : Path → Bool) :
    (t.passing cwd test roots).filter keep =
      t.passing cwd (fun path => test path && keep path) roots := by
  unfold passing
  rw [List.filter_flatMap]
  congr 1
  funext root
  rw [List.filter_filter]
  simp only [Bool.and_comm]

/- By induction on the roots, each of which is walked in turn. -/
theorem matchingAll_eq_ok_iff :
    t.matchingAll cwd accepts roots = .ok files ↔
      (∀ root ∈ roots, FaultFree (t.walk cwd root)) ∧
        files = t.passing cwd accepts roots := by
  induction roots generalizing files with
  | nil => simp [matchingAll, passing, eq_comm]
  | cons root rest ih =>
    have hPassing :
        t.passing cwd accepts (root :: rest) =
          ((t.walk cwd root).filterMap WalkItem.file?).filter accepts
            ++ t.passing cwd accepts rest :=
      List.flatMap_cons
    rw [List.forall_mem_cons, hPassing, matchingAll]
    cases hFirst : t.matching cwd accepts root with
    | error error =>
      have hFaulty := (collect_eq_error_iff.mp hFirst).2.not_faultFree
      simp [hFaulty]
    | ok first =>
      rcases collect_eq_ok_iff.mp hFirst with ⟨hFree, rfl⟩
      cases hRest : t.matchingAll cwd accepts rest with
      | error error =>
        have hFaulty :
            ¬ ∀ other ∈ rest, FaultFree (t.walk cwd other) := by
          intro hAll
          have hOk := ih.mpr ⟨hAll, rfl⟩
          rw [hRest] at hOk
          cases hOk
        simp [hFaulty]
      | ok others =>
        rcases ih.mp hRest with ⟨hAll, rfl⟩
        simp only [Except.ok.injEq]
        constructor
        · rintro rfl
          exact ⟨⟨hFree, hAll⟩, rfl⟩
        · rintro ⟨_, rfl⟩
          rfl

/- The first error is that of the first root, or behind it. -/
theorem isFirstError_cons_iff
    {root : Path}
    {error : WalkError} :
    t.IsFirstError cwd (root :: roots) error ↔
      (error.root = root ∧
          FirstFault (t.walk cwd root) error.fault error.path) ∨
        (FaultFree (t.walk cwd root) ∧
          t.IsFirstError cwd roots error) := by
  constructor
  · rintro ⟨before, after, hRoots, hBefore, hFault⟩
    cases before with
    | nil =>
      cases hRoots
      exact .inl ⟨rfl, hFault⟩
    | cons first before =>
      cases hRoots
      rcases List.forall_mem_cons.mp hBefore with ⟨hFree, hOthers⟩
      exact .inr ⟨hFree, before, after, rfl, hOthers, hFault⟩
  · rintro (⟨rfl, hFault⟩ | ⟨hFree, before, after, rfl, hBefore, hFault⟩)
    · exact ⟨[], roots, rfl, List.forall_mem_nil _, hFault⟩
    · exact
        ⟨root :: before, after, rfl,
          List.forall_mem_cons.mpr ⟨hFree, hBefore⟩, hFault⟩

theorem matchingAll_eq_error_iff
    {error : WalkError} :
    t.matchingAll cwd accepts roots = .error error ↔
      t.IsFirstError cwd roots error := by
  induction roots with
  | nil => simp [matchingAll, IsFirstError]
  | cons root rest ih =>
    have hHead := @collect_eq_error_iff root accepts (t.walk cwd root)
    rw [isFirstError_cons_iff, ← ih, ← hHead, matchingAll]
    change _ ↔ t.matching cwd accepts root = _ ∨ _
    cases hFirst : t.matching cwd accepts root with
    | error found =>
      have hFaulty := (collect_eq_error_iff.mp hFirst).2.not_faultFree
      simp [hFaulty]
    | ok first =>
      have hFree := (collect_eq_ok_iff.mp hFirst).1
      cases t.matchingAll cwd accepts rest with
      | error found => simp [hFree]
      | ok others => simp

end

end FileTree

------------------------------------------------------------
-- Selections
------------------------------------------------------------

/-
  The three tests of a selection: a path is accepted, it is
  not blacklisted, and it has changed if only changed paths
  are wanted.
-/
def passesTests
    (accepts : Path → Bool)
    (blacklist : PathSet)
    (filter : ChangeFilter)
    (path : Path) : Bool :=
  accepts path && !blacklist.holds path &&
    match filter with
    | .active changed => changed.holds path
    | _ => true

namespace FileTree

section

variable {t : FileTree} {cwd : Location}
variable {accepts : Path → Bool} {blacklist : PathSet}
variable {filter : ChangeFilter} {roots files : List Path}

/- To filter what is collected is to test it all at once. -/
theorem filter_passing_eq
    (hFilter : filter ≠ .activeEmpty) :
    (t.passing cwd accepts roots).filter
        (fun path => !blacklist.holds path && filter.admits path) =
      t.passing cwd (passesTests accepts blacklist filter) roots := by
  rw [filter_passing]
  congr 1
  funext path
  cases filter with
  | activeEmpty => exact absurd rfl hFilter
  | inactive => simp [passesTests, ChangeFilter.admits]
  | active changed =>
    simp [passesTests, ChangeFilter.admits, Bool.and_assoc]

theorem filterFiles_eq_ok_iff
    (hFilter : filter ≠ .activeEmpty) :
    t.filterFiles cwd accepts blacklist filter roots = .ok files ↔
      (∀ root ∈ roots, FaultFree (t.walk cwd root)) ∧
        files =
          t.passing cwd (passesTests accepts blacklist filter) roots := by
  rw [filterFiles_of_ne_activeEmpty hFilter, ← filter_passing_eq hFilter]
  constructor
  · intro hFiles
    cases hAll : t.matchingAll cwd accepts roots with
    | error error =>
      rw [hAll] at hFiles
      cases hFiles
    | ok all =>
      rw [hAll] at hFiles
      cases hFiles
      rcases matchingAll_eq_ok_iff.mp hAll with ⟨hFree, rfl⟩
      exact ⟨hFree, rfl⟩
  · rintro ⟨hFree, rfl⟩
    rw [matchingAll_eq_ok_iff.mpr ⟨hFree, rfl⟩]
    rfl

theorem filterFiles_eq_error_iff
    {error : WalkError}
    (hFilter : filter ≠ .activeEmpty) :
    t.filterFiles cwd accepts blacklist filter roots = .error error ↔
      t.IsFirstError cwd roots error := by
  have hAll := @matchingAll_eq_error_iff t cwd accepts roots error
  rw [filterFiles_of_ne_activeEmpty hFilter, ← hAll]
  cases t.matchingAll cwd accepts roots with
  | error found => simp [Except.map]
  | ok all => simp [Except.map]

end

end FileTree

/-
  Where nothing has changed, nothing is selected and no root
  needs to be there.  Otherwise a selection succeeds exactly
  where no walk has a fault, with the files that pass the
  tests, and fails exactly with the first fault.  Where no walk
  has a fault, asking for changed files alone takes away all
  others, also when nothing has changed.
-/
theorem selection_passes_three_stages
    (t : FileTree)
    (cwd : Location)
    (accepts : Path → Bool)
    (blacklist : PathSet)
    (filter : ChangeFilter)
    (roots : List Path) :
    t.filterFiles cwd accepts blacklist .activeEmpty roots = .ok [] ∧
    (filter ≠ .activeEmpty →
      (∀ files,
        t.filterFiles cwd accepts blacklist filter roots = .ok files ↔
          (∀ root ∈ roots, FaultFree (t.walk cwd root)) ∧
          files =
            t.passing cwd (passesTests accepts blacklist filter)
              roots) ∧
      ∀ error,
        t.filterFiles cwd accepts blacklist filter roots =
            .error error ↔
          t.IsFirstError cwd roots error) ∧
    ((∀ root ∈ roots, FaultFree (t.walk cwd root)) →
      ∀ changed : PathSet,
      ∃ files,
        t.filterFiles cwd accepts blacklist .inactive roots =
          .ok files ∧
        t.filterFiles cwd accepts blacklist (.ofChanged changed) roots =
          .ok (files.filter changed.holds)) := by
  refine ⟨rfl, ?_, ?_⟩
  · intro hFilter
    exact
      ⟨fun files => FileTree.filterFiles_eq_ok_iff hFilter,
        fun error => FileTree.filterFiles_eq_error_iff hFilter⟩
  · intro hFree changed
    have hInactive :=
      (@FileTree.filterFiles_eq_ok_iff t cwd accepts blacklist .inactive
        roots _ (by simp)).mpr ⟨hFree, rfl⟩
    have hAdmits :
        (ChangeFilter.ofChanged changed).admits = changed.holds :=
      funext (ChangeFilter.admits_ofChanged changed)
    refine ⟨_, hInactive, ?_⟩
    rw [FileTree.filterFiles_of_inactive hInactive (.ofChanged changed),
      hAdmits]

------------------------------------------------------------
-- A Directory With A Broken Link
------------------------------------------------------------

namespace BrokenLink

/- A directory with a header, and one with a link to nothing. -/
def tree : FileTree where
  nodes :=
    [ (["v"], .directory),
      (["v", "d.h"], .file [] false),
      (["w"], .directory),
      (["w", "b"], .link "gone") ]

def isHeader (path : Path) : Bool :=
  Path.hasExtension path ["h"]

theorem walk_v :
    tree.walk [] "/v" = [.file "/v/d.h"] := by
  have hRoot : tree.locateEntry [] "/v" = .ok ["v"] :=
    @FileTree.locateEntry_of_isPlain tree [] ["v"] .directory
      (by decide) rfl
  have hNames : tree.names ["v"] = ["d.h"] := by
    simp [FileTree.names, tree, FileTree.childName?]
    rfl
  exact FileTree.walk_of_lone_file hRoot rfl hNames rfl

theorem locate_link :
    tree.locate [] "/w/b" = .error .notFound := by
  have hFit : FileTree.IsFit ["w", "b"] := by decide
  have hFollowed :
      tree.advance true FileTree.linkLimit [] ["w", "b"] =
        tree.advance true 39 ["w"] ["gone"] :=
    @FileTree.advance_link tree true ["w"] "b" "gone" [] 39
      (by decide) rfl (by decide) rfl
  have hGone : tree.advance true 39 ["w"] ["gone"] = .error .notFound :=
    FileTree.advance_short_missing [] (by decide) rfl rfl (by decide)
  exact (FileTree.locate_toPath hFit).trans (hFollowed.trans hGone)

/- The link is the only item, and a fault. -/
theorem walk_w :
    tree.walk [] "/w" =
      [.fault (.unreachable .notFound) "/w/b"] := by
  have hRoot : tree.locateEntry [] "/w" = .ok ["w"] :=
    @FileTree.locateEntry_of_isPlain tree [] ["w"] .directory
      (by decide) rfl
  have hDirectory : tree.sight [] "/w" ["w"] = .directory := rfl
  have hNames : tree.names ["w"] = ["b"] := by
    simp [FileTree.names, tree, FileTree.childName?]
    rfl
  have hBroken :
      tree.sight [] (Path.join "/w" "b") (["w"] ++ ["b"]) =
        .broken .notFound := by
    have hLink : tree.node? (["w"] ++ ["b"]) = some (.link "gone") := rfl
    have hJoin : Path.join "/w" "b" = "/w/b" := rfl
    unfold FileTree.sight
    rw [hLink, hJoin, locate_link]
  unfold FileTree.walk
  rw [hRoot]
  simp only [hDirectory]
  rw [FileTree.visit_eq, hNames]
  simp only [List.flatMap_cons, List.flatMap_nil, hBroken]
  rfl

end BrokenLink

/-
  A link that leads nowhere fails the selection, although it is
  no header and blacklisted, unless nothing has changed.
-/
open BrokenLink in
theorem broken_link_fails_selection :
    ChangeFilter.active ["/v/d.h"] ≠ .activeEmpty ∧
    (∀ root ∈ ["/v"], FaultFree (tree.walk [] root)) ∧
    tree.filterFiles [] isHeader ["/w/b"] (.active ["/v/d.h"])
        ["/v", "/w"] =
      .error ⟨"/w", .unreachable .notFound, "/w/b"⟩ ∧
    tree.filterFiles [] isHeader ["/w/b"] .activeEmpty ["/v", "/w"] =
      .ok [] ∧
    tree.filterFiles [] isHeader ["/w/b"] (.active ["/v/d.h"]) ["/v"] =
      .ok ["/v/d.h"] := by
  have hFilter : ChangeFilter.active ["/v/d.h"] ≠ .activeEmpty := by
    simp
  have hClean : FaultFree (tree.walk [] "/v") := by
    simp [FaultFree, walk_v]
  have hFree : ∀ root ∈ ["/v"], FaultFree (tree.walk [] root) := by
    simpa using hClean
  rcases selection_passes_three_stages tree [] isHeader ["/w/b"]
      (.active ["/v/d.h"]) ["/v", "/w"] with
    ⟨hEmpty, hBoth, _⟩
  rcases selection_passes_three_stages tree [] isHeader ["/w/b"]
      (.active ["/v/d.h"]) ["/v"] with
    ⟨_, hOne, _⟩
  refine ⟨hFilter, hFree, ?_, hEmpty, ?_⟩
  · apply ((hBoth hFilter).2 _).mpr
    refine ⟨["/v"], [], rfl, hFree, [], [], ?_⟩
    exact walk_w
  · apply ((hOne hFilter).1 _).mpr
    have hPasses :
        passesTests isHeader ["/w/b"] (.active ["/v/d.h"]) "/v/d.h" =
          true := by
      decide
    exact ⟨hFree, by simp [FileTree.passing, walk_v, WalkItem.file?, hPasses]⟩

end TreeLint
