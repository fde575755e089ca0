import TreeLint.FileTree.Selection
import TreeLint.Proofs.FileTree.Walked

/-
  The files that a selection leaves.

  Key definitions include:
    * `WalkItem.file?`

  Key theorems include:
    * `collect_eq_ok`
    * `FileTree.filterFiles_of_inactive`
    * `FileTree.mem_filterFiles`
    * `FileTree.place_of_mem_filterFiles`

  What is collected from a walk is its accepted files in
  order.  A change filter takes away from the files that are
  left without it, and changes nothing else.
-/

------------------------------------------------------------
-- Collecting
------------------------------------------------------------

namespace TreeLint

/- The file that an item is, if it is one. -/
def WalkItem.file? : WalkItem → Option Path
  | file path => some path
  | fault _ _ => none

theorem WalkItem.file?_eq_some_iff
    {item : WalkItem}
    {path : Path} :
    item.file? = some path ↔ item = .file path := by
  cases item <;> simp [WalkItem.file?]

/- What is collected are the accepted files, in order. -/
theorem collect_eq_ok
    {root : Path}
    {accepts : Path → Bool}
    {items : List WalkItem}
    {files : List Path}
    (hFiles : collect root accepts items = .ok files) :
    files = (items.filterMap WalkItem.file?).filter accepts := by
  induction items generalizing files with
  | nil =>
    cases hFiles
    rfl
  | cons item rest ih =>
    cases item with
    | fault fault path => cases hFiles
    | file path =>
      simp only [collect] at hFiles
      split at hFiles
      · cases hFiles
      · next others hOthers =>
        cases hFiles
        simp only [List.filterMap_cons, WalkItem.file?,
          List.filter_cons]
        split
        · rw [← ih hOthers]
        · exact ih hOthers

/- An error in collecting comes from a fault of the walk. -/
theorem exists_fault_of_collect_eq_error
    {root : Path}
    {accepts : Path → Bool}
    {items : List WalkItem}
    {error : WalkError}
    (hError : collect root accepts items = .error error) :
    ∃ fault path,
      .fault fault path ∈ items ∧ error = ⟨root, fault, path⟩ := by
  induction items with
  | nil => cases hError
  | cons item rest ih =>
    cases item with
    | fault fault path =>
      cases hError
      exact ⟨fault, path, List.mem_cons_self, rfl⟩
    | file path =>
      simp only [collect] at hError
      split at hError
      · next found hFound =>
        cases hError
        rcases ih hFound with ⟨fault, path, hFault, hEq⟩
        exact ⟨fault, path, List.mem_cons_of_mem _ hFault, hEq⟩
      · cases hError

/- The filter for changed files lets pass what has changed. -/
theorem ChangeFilter.admits_ofChanged
    (changed : PathSet)
    (p : Path) :
    (ChangeFilter.ofChanged changed).admits p = changed.holds p := by
  cases changed with
  | nil => rfl
  | cons first rest => rfl

namespace FileTree

variable {t : FileTree} {cwd : Location}
variable {accepts : Path → Bool} {blacklist : PathSet}
variable {roots : List Path} {files : List Path} {file : Path}

theorem mem_matching
    {root : Path}
    (hFiles : t.matching cwd accepts root = .ok files)
    (hFile : file ∈ files) :
    .file file ∈ t.walk cwd root ∧ accepts file = true := by
  rw [collect_eq_ok hFiles] at hFile
  rcases List.mem_filter.mp hFile with ⟨hWalked, hAccepted⟩
  rcases List.mem_filterMap.mp hWalked with ⟨item, hItem, hEq⟩
  rw [WalkItem.file?_eq_some_iff] at hEq
  exact ⟨hEq ▸ hItem, hAccepted⟩

theorem mem_matchingAll
    (hFiles : t.matchingAll cwd accepts roots = .ok files)
    (hFile : file ∈ files) :
    (∃ root ∈ roots, .file file ∈ t.walk cwd root) ∧
      accepts file = true := by
  induction roots generalizing files with
  | nil =>
    cases hFiles
    cases hFile
  | cons root rest ih =>
    simp only [matchingAll] at hFiles
    split at hFiles
    · cases hFiles
    · next first hFirst =>
      split at hFiles
      · cases hFiles
      · next others hOthers =>
        cases hFiles
        rcases List.mem_append.mp hFile with hIn | hLater
        · rcases mem_matching hFirst hIn with ⟨hWalked, hAccepted⟩
          exact ⟨⟨root, List.mem_cons_self, hWalked⟩, hAccepted⟩
        · rcases ih hOthers hLater with
            ⟨⟨other, hOther, hWalked⟩, hAccepted⟩
          exact
            ⟨⟨other, List.mem_cons_of_mem _ hOther, hWalked⟩,
              hAccepted⟩

/- An error below several roots is a fault in the walk of one. -/
theorem exists_fault_of_matchingAll_eq_error
    {error : WalkError}
    (hError : t.matchingAll cwd accepts roots = .error error) :
    ∃ root ∈ roots, ∃ fault path,
      .fault fault path ∈ t.walk cwd root ∧
      error = ⟨root, fault, path⟩ := by
  induction roots with
  | nil => cases hError
  | cons root rest ih =>
    simp only [matchingAll] at hError
    split at hError
    · next found hFound =>
      cases hError
      exact
        ⟨root, List.mem_cons_self,
          exists_fault_of_collect_eq_error hFound⟩
    · split at hError
      · next found hFound =>
        cases hError
        rcases ih hFound with ⟨other, hOther, hFault⟩
        exact ⟨other, List.mem_cons_of_mem _ hOther, hFault⟩
      · cases hError

------------------------------------------------------------
-- Filtering
------------------------------------------------------------

/- A filter that does not forbid everything walks the roots. -/
theorem filterFiles_of_ne_activeEmpty
    {filter : ChangeFilter}
    (hFilter : filter ≠ .activeEmpty) :
    t.filterFiles cwd accepts blacklist filter roots =
      (t.matchingAll cwd accepts roots).map
        (List.filter fun path =>
          !blacklist.holds path && filter.admits path) := by
  cases filter with
  | activeEmpty => exact absurd rfl hFilter
  | inactive => rfl
  | active changed => rfl

/- A walk that meets one file leaves it, if it is to be left. -/
theorem filterFiles_of_lone_file
    {root : Path}
    (hWalk : t.walk cwd root = [.file file])
    (hAccepted : accepts file = true)
    (hListed : blacklist.holds file = false) :
    t.filterFiles cwd accepts blacklist .inactive [root] =
      .ok [file] := by
  have hMatching : t.matching cwd accepts root = .ok [file] := by
    unfold matching
    rw [hWalk]
    simp [collect, hAccepted]
  rw [filterFiles_of_ne_activeEmpty (by simp)]
  simp [matchingAll, hMatching, Except.map, hListed,
    ChangeFilter.admits]

/-
  With a change filter, the files that are left are those that
  are left without it and that it lets pass.
-/
theorem filterFiles_of_inactive
    (hFiles :
      t.filterFiles cwd accepts blacklist .inactive roots = .ok files)
    (filter : ChangeFilter) :
    t.filterFiles cwd accepts blacklist filter roots =
      .ok (files.filter filter.admits) := by
  rw [filterFiles_of_ne_activeEmpty (by simp)] at hFiles
  cases hAll : t.matchingAll cwd accepts roots with
  | error error =>
    rw [hAll] at hFiles
    cases hFiles
  | ok all =>
    rw [hAll] at hFiles
    cases hFiles
    by_cases hFilter : filter = .activeEmpty
    · subst hFilter
      simp [filterFiles, ChangeFilter.admits]
    · rw [filterFiles_of_ne_activeEmpty hFilter, hAll]
      simp [Except.map, List.filter_filter, ChangeFilter.admits,
        Bool.and_comm]

/- Every file that is left has passed every stage. -/
theorem mem_filterFiles
    {filter : ChangeFilter}
    (hFiles :
      t.filterFiles cwd accepts blacklist filter roots = .ok files)
    (hFile : file ∈ files) :
    (∃ root ∈ roots, .file file ∈ t.walk cwd root) ∧
      accepts file = true ∧
      blacklist.holds file = false ∧
      filter.admits file = true := by
  by_cases hFilter : filter = .activeEmpty
  · subst hFilter
    cases hFiles
    cases hFile
  · rw [filterFiles_of_ne_activeEmpty hFilter] at hFiles
    cases hAll : t.matchingAll cwd accepts roots with
    | error error =>
      rw [hAll] at hFiles
      cases hFiles
    | ok all =>
      rw [hAll] at hFiles
      cases hFiles
      rcases List.mem_filter.mp hFile with ⟨hIn, hPass⟩
      rcases mem_matchingAll hAll hIn with ⟨hWalked, hAccepted⟩
      simp only [Bool.and_eq_true, Bool.not_eq_true'] at hPass
      exact ⟨hWalked, hAccepted, hPass.1, hPass.2⟩

/- Where a selection fails, the walk of a root has a fault. -/
theorem exists_fault_of_filterFiles_eq_error
    {filter : ChangeFilter}
    {error : WalkError}
    (hError :
      t.filterFiles cwd accepts blacklist filter roots =
        .error error) :
    ∃ root ∈ roots, ∃ fault path,
      .fault fault path ∈ t.walk cwd root ∧
      error = ⟨root, fault, path⟩ := by
  by_cases hFilter : filter = .activeEmpty
  · subst hFilter
    cases hError
  · rw [filterFiles_of_ne_activeEmpty hFilter] at hError
    cases hAll : t.matchingAll cwd accepts roots with
    | error found =>
      rw [hAll] at hError
      cases hError
      exact exists_fault_of_matchingAll_eq_error hAll
    | ok all =>
      rw [hAll] at hError
      cases hError

/- Where the roots are places, so is every file that is left. -/
theorem place_of_mem_filterFiles
    {filter : ChangeFilter}
    (hNames : t.WellNamed)
    (hRoots :
      ∀ root ∈ roots, ∃ place : Location,
        place.IsProper ∧ root = place.toPath)
    (hFiles :
      t.filterFiles cwd accepts blacklist filter roots = .ok files)
    (hFile : file ∈ files) :
    ∃ place below : Location,
      place.toPath ∈ roots ∧
      Location.IsProper (place ++ below) ∧
      file = Location.toPath (place ++ below) := by
  rcases (mem_filterFiles hFiles hFile).1 with ⟨root, hRoot, hWalked⟩
  rcases hRoots root hRoot with ⟨place, hPlace, rfl⟩
  rcases place_of_mem_walk hNames hPlace hWalked with
    ⟨below, hProper, hPath⟩
  exact ⟨place, below, hRoot, hProper, hPath⟩

end FileTree

end TreeLint
