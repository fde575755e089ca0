import TreeLint.Proofs.FileTree.Followed
import TreeLint.Proofs.FileTree.Selected

/-
  The branches of a walk.

  Key definitions include:
    * `FileTree.ownItem?`
    * `FileTree.entered?`
    * `FileTree.branch`

  Key theorems include:
    * `FileTree.visit_eq_branches`
    * `FileTree.visit_induction`
    * `FileTree.walk_cases`
    * `FileTree.nodup_names`
    * `FileTree.pairwise_walk`

  A visit of a directory is made of one branch for each name:
  the entry is an item itself, or a directory is entered there
  and visited in turn, or there is nothing.  The items of two
  branches part at the two names, so whatever holds of the
  names of each directory in turn holds of the whole walk.
-/

------------------------------------------------------------
-- What An Entry Is Seen As
------------------------------------------------------------

namespace TreeLint

namespace FileTree

section

variable {t : FileTree} {cwd loc dest : Location} {path : Path}

theorem directory?_eq_some_iff :
    t.directory? cwd path = some dest ↔
      t.resolved? cwd path = some (dest, .directory) := by
  unfold directory?
  split
  · next loc hRoot =>
    rw [hRoot]
    simp
  · next hOther =>
    simp only [reduceCtorEq, false_iff]
    exact hOther dest

theorem isFile_iff :
    t.isFile cwd path = true ↔
      ∃ dest content executable,
        t.resolved? cwd path =
          some (dest, .file content executable) := by
  unfold isFile read?
  split
  · next dest content executable hRoot => simp [hRoot]
  · next hOther =>
    simp only [Option.isSome_none, Bool.false_eq_true, false_iff]
    rintro ⟨dest, content, executable, hRoot⟩
    exact hOther dest content executable hRoot

/- What is no link is seen as what it is. -/
theorem sight_of_not_link
    (hFree : ¬ t.IsLinkAt loc) :
    t.sight cwd path loc =
      match t.node? loc with
      | none => .broken .notFound
      | some .directory => .directory
      | some (.file _ _) => .file
      | some _ => .other := by
  unfold sight
  cases hNode : t.node? loc with
  | none => rfl
  | some node =>
    cases node with
    | link target => exact absurd ⟨target, hNode⟩ hFree
    | directory => rfl
    | file content executable => rfl
    | pipe => rfl

/- What a link is seen as depends on what it leads to alone. -/
theorem sight_of_link
    (hLink : t.IsLinkAt loc) :
    (t.resolved? cwd path = none ∧
        ∃ error, t.sight cwd path loc = .broken error) ∨
    (∃ dest,
        t.resolved? cwd path = some (dest, .directory) ∧
        t.sight cwd path loc = .linkedDirectory dest) ∨
    (∃ dest content executable,
        t.resolved? cwd path = some (dest, .file content executable) ∧
        t.sight cwd path loc = .file) ∨
    (∃ dest node,
        t.resolved? cwd path = some (dest, node) ∧
        node ≠ .directory ∧
        (∀ content executable, node ≠ .file content executable) ∧
        t.sight cwd path loc = .other) := by
  rcases hLink with ⟨target, hLink⟩
  unfold sight resolved?
  rw [hLink]
  cases hDest : t.locate cwd path with
  | error error => simp
  | ok dest =>
    cases hNode : t.node? dest with
    | none => simp [hNode]
    | some node => cases node <;> simp [hNode]

theorem sight_eq_directory_iff :
    t.sight cwd path loc = .directory ↔
      t.node? loc = some .directory := by
  refine ⟨node?_of_sight_eq_directory, fun hNode => ?_⟩
  simp [sight, hNode]

theorem sight_eq_linkedDirectory_iff :
    t.sight cwd path loc = .linkedDirectory dest ↔
      t.IsLinkAt loc ∧ t.directory? cwd path = some dest := by
  rw [directory?_eq_some_iff]
  by_cases hLink : t.IsLinkAt loc
  · rcases @sight_of_link t cwd loc path hLink with
      ⟨hDest, _, hSight⟩ | ⟨_, hDest, hSight⟩ |
        ⟨_, _, _, hDest, hSight⟩ | ⟨_, _, hDest, hDir, hFile, hSight⟩ <;>
      simp_all
  · rw [sight_of_not_link hLink]
    split <;> simp [hLink]

/- A regular file is there, or a link to one. -/
theorem sight_eq_file_iff :
    t.sight cwd path loc = .file ↔
      (∃ content executable,
        t.node? loc = some (.file content executable)) ∨
      (t.IsLinkAt loc ∧ t.isFile cwd path = true) := by
  rw [isFile_iff]
  by_cases hLink : t.IsLinkAt loc
  · rcases id hLink with ⟨target, hNode⟩
    rcases @sight_of_link t cwd loc path hLink with
      ⟨hDest, _, hSight⟩ | ⟨_, hDest, hSight⟩ |
        ⟨_, _, _, hDest, hSight⟩ | ⟨_, _, hDest, hDir, hFile, hSight⟩ <;>
      simp_all
  · rw [sight_of_not_link hLink]
    split <;> simp_all

/- Nothing is there, or a link that leads nowhere. -/
theorem exists_sight_eq_broken_iff :
    (∃ error, t.sight cwd path loc = .broken error) ↔
      t.node? loc = none ∨
      (t.IsLinkAt loc ∧ t.resolved? cwd path = none) := by
  by_cases hLink : t.IsLinkAt loc
  · rcases id hLink with ⟨target, hNode⟩
    rcases @sight_of_link t cwd loc path hLink with
      ⟨hDest, _, hSight⟩ | ⟨_, hDest, hSight⟩ |
        ⟨_, _, _, hDest, hSight⟩ | ⟨_, _, hDest, hDir, hFile, hSight⟩ <;>
      simp_all
  · rw [sight_of_not_link hLink]
    split <;> simp_all

end

------------------------------------------------------------
-- One Branch
------------------------------------------------------------

/-
  The item that an entry is itself; `above` are the
  directories on the way to it.
-/
def ownItem?
    (t : FileTree)
    (cwd : Location)
    (above : List Location)
    (path : Path)
    (loc : Location) : Option WalkItem :=
  match t.sight cwd path loc with
  | .file => some (.file path)
  | .broken error => some (.fault (.unreachable error) path)
  | .linkedDirectory dest =>
    if above.contains dest then some (.fault .loop path) else none
  | .directory => none
  | .other => none

/- The directory that a walk enters at an entry. -/
def entered?
    (t : FileTree)
    (cwd : Location)
    (above : List Location)
    (path : Path)
    (loc : Location) : Option Location :=
  match t.sight cwd path loc with
  | .directory => some loc
  | .linkedDirectory dest =>
    if above.contains dest then none else some dest
  | _ => none

/- All items that a walk finds at an entry and below it. -/
def branch
    (t : FileTree)
    (cwd : Location)
    (above : List Location)
    (path : Path)
    (loc : Location) : List WalkItem :=
  match t.entered? cwd above path loc with
  | some dest => t.visit cwd above path dest
  | none => (t.ownItem? cwd above path loc).toList

variable {t : FileTree} {cwd loc : Location} {above : List Location}
variable {path root : Path} {item : WalkItem}

theorem visit_eq_branches
    (t : FileTree)
    (cwd : Location)
    (above : List Location)
    (path : Path)
    (loc : Location) :
    t.visit cwd above path loc =
      (t.names loc).flatMap fun name =>
        t.branch cwd (loc :: above) (path.join name)
          (loc ++ [name]) := by
  rw [visit_eq]
  congr 1
  funext name
  unfold branch entered? ownItem?
  cases t.sight cwd (path.join name) (loc ++ [name]) with
  | file => rfl
  | directory => rfl
  | other => rfl
  | broken error => rfl
  | linkedDirectory dest =>
    simp only [List.contains_iff_mem]
    split <;> rfl

theorem branch_of_entered
    {dest : Location}
    (hEntered : t.entered? cwd above path loc = some dest) :
    t.branch cwd above path loc = t.visit cwd above path dest := by
  rw [branch, hEntered]

theorem branch_of_not_entered
    (hEntered : t.entered? cwd above path loc = none) :
    t.branch cwd above path loc =
      (t.ownItem? cwd above path loc).toList := by
  rw [branch, hEntered]

/- Where a directory is entered, the entry is no item itself. -/
theorem ownItem?_of_entered
    {dest : Location}
    (hEntered : t.entered? cwd above path loc = some dest) :
    t.ownItem? cwd above path loc = none := by
  unfold entered? at hEntered
  unfold ownItem?
  cases hSight : t.sight cwd path loc with
  | file => simp [hSight] at hEntered
  | directory => rfl
  | other => rfl
  | broken error => simp [hSight] at hEntered
  | linkedDirectory other =>
    rw [hSight] at hEntered
    simp only at hEntered ⊢
    split at hEntered
    · cases hEntered
    · next hNew => rw [if_neg hNew]

theorem mem_branch_iff :
    item ∈ t.branch cwd above path loc ↔
      t.ownItem? cwd above path loc = some item ∨
      ∃ dest,
        t.entered? cwd above path loc = some dest ∧
        item ∈ t.visit cwd above path dest := by
  cases hEntered : t.entered? cwd above path loc with
  | none => simp [branch_of_not_entered hEntered]
  | some dest =>
    simp [branch_of_entered hEntered, ownItem?_of_entered hEntered]

theorem mem_visit_iff :
    item ∈ t.visit cwd above path loc ↔
      ∃ name ∈ t.names loc,
        item ∈
          t.branch cwd (loc :: above) (path.join name)
            (loc ++ [name]) := by
  rw [visit_eq_branches, List.mem_flatMap]

/-
  What holds of a visit whenever it holds of the visits of all
  directories that are entered in it holds of every visit.
-/
theorem visit_induction
    (t : FileTree)
    (cwd : Location)
    {motive : List Location → Path → Location → Prop}
    (hStep :
      ∀ above path loc,
        (∀ name dest,
          t.entered? cwd (loc :: above) (path.join name)
              (loc ++ [name]) = some dest →
          motive (loc :: above) (path.join name) dest) →
        motive above path loc)
    (above : List Location)
    (path : Path)
    (loc : Location) :
    motive above path loc := by
  induction above, path, loc using visit.induct t cwd with
  | case1 above path loc ihDirectory ihLinked =>
    apply hStep
    intro name dest hEntered
    unfold entered? at hEntered
    split at hEntered
    · next hSight =>
      cases hEntered
      exact ihDirectory name hSight
    · next hSight =>
      split at hEntered
      · cases hEntered
      · next hNew =>
        cases hEntered
        rw [List.contains_iff_mem] at hNew
        exact ihLinked name _ hSight hNew
    · cases hEntered

theorem path_of_ownItem
    (hOwn : t.ownItem? cwd above path loc = some item) :
    item.path = path := by
  unfold ownItem? at hOwn
  split at hOwn
  · cases hOwn
    rfl
  · cases hOwn
    rfl
  · split at hOwn
    · cases hOwn
      rfl
    · cases hOwn
  · cases hOwn
  · cases hOwn

/- An item of a branch lies at its entry or below it. -/
theorem path_of_mem_branch
    (hNames : t.WellNamed)
    (hItem : item ∈ t.branch cwd above path loc) :
    ∃ names : Location,
      names.IsProper ∧ item.path = names.foldl Path.join path := by
  rcases mem_branch_iff.mp hItem with hOwn | ⟨dest, _, hVisit⟩
  · exact ⟨[], by simp [Location.IsProper], path_of_ownItem hOwn⟩
  · rcases path_of_mem_visit hNames _ _ _ hVisit with
      ⟨names, _, hProper, hPath⟩
    exact ⟨names, hProper, hPath⟩

------------------------------------------------------------
-- The Root
------------------------------------------------------------

/- What a root comes to depends on what it leads to alone. -/
theorem walk_cases
    (t : FileTree)
    (cwd : Location)
    (root : Path) :
    (t.resolved? cwd root = none ∧
        ∃ error, t.walk cwd root = [.fault (.unreachable error) root]) ∨
    (∃ dest,
        t.resolved? cwd root = some (dest, .directory) ∧
        t.walk cwd root = t.visit cwd [] root dest) ∨
    (∃ dest content executable,
        t.resolved? cwd root = some (dest, .file content executable) ∧
        t.walk cwd root = [.file root]) ∨
    (∃ dest node,
        t.resolved? cwd root = some (dest, node) ∧
        node ≠ .directory ∧
        (∀ content executable, node ≠ .file content executable) ∧
        t.walk cwd root = []) := by
  unfold walk
  cases hEntry : t.locateEntry cwd root with
  | error error =>
    exact .inl ⟨resolved?_of_locateEntry_error hEntry, error, rfl⟩
  | ok loc =>
    by_cases hLink : t.IsLinkAt loc
    · rcases @sight_of_link t cwd loc root hLink with
        ⟨hNone, error, hSight⟩ | ⟨dest, hDest, hSight⟩ |
          ⟨dest, content, executable, hDest, hSight⟩ |
          ⟨dest, node, hDest, hDir, hFile, hSight⟩
      · simp [hNone, hSight]
      · simp [hDest, hSight]
      · simp [hDest, hSight]
      · simp [hDest, hSight, hDir, hFile]
    · rw [resolved?_of_locateEntry hEntry hLink]
      cases hNode : t.node? loc with
      | none => simp [sight, hNode]
      | some node =>
        cases node with
        | link target => exact absurd ⟨target, hNode⟩ hLink
        | directory => simp [sight, hNode]
        | file content executable => simp [sight, hNode]
        | pipe => simp [sight, hNode]

theorem walk_of_unresolved
    (hRoot : t.resolved? cwd root = none) :
    ∃ error, t.walk cwd root = [.fault (.unreachable error) root] := by
  rcases walk_cases t cwd root with
    ⟨_, hWalk⟩ | ⟨_, hDest, _⟩ | ⟨_, _, _, hDest, _⟩ | ⟨_, _, hDest, _⟩
  · exact hWalk
  · simp [hRoot] at hDest
  · simp [hRoot] at hDest
  · simp [hRoot] at hDest

theorem walk_of_directory
    {dest : Location}
    (hRoot : t.directory? cwd root = some dest) :
    t.walk cwd root = t.visit cwd [] root dest := by
  rw [directory?_eq_some_iff] at hRoot
  rcases walk_cases t cwd root with
    ⟨hNone, _⟩ | ⟨_, hDest, hWalk⟩ | ⟨_, _, _, hDest, _⟩ |
      ⟨_, _, hDest, hDir, _⟩
  · simp [hRoot] at hNone
  · rw [hRoot] at hDest
    cases hDest
    exact hWalk
  · simp [hRoot] at hDest
  · rw [hRoot] at hDest
    cases hDest
    exact absurd rfl hDir

theorem walk_of_isFile
    (hRoot : t.isFile cwd root = true) :
    t.walk cwd root = [.file root] := by
  rcases isFile_iff.mp hRoot with ⟨_, _, _, hFile⟩
  rcases walk_cases t cwd root with
    ⟨hNone, _⟩ | ⟨_, hDest, _⟩ | ⟨_, _, _, _, hWalk⟩ |
      ⟨_, _, hDest, _, hNot, _⟩
  · simp [hFile] at hNone
  · simp [hFile] at hDest
  · exact hWalk
  · rw [hFile] at hDest
    cases hDest
    exact absurd rfl (hNot _ _)

------------------------------------------------------------
-- Names In A Directory
------------------------------------------------------------

/-
  Erasing repetitions keeps one item of each kind and the
  order.  By induction on the length, since what is erased is
  erased from the rest first.
-/
theorem eraseDups_sublist_and_nodup
    (names : List String) :
    names.eraseDups.Sublist names ∧ names.eraseDups.Nodup := by
  induction hLength : names.length using Nat.strongRecOn
    generalizing names with
  | ind length ih =>
    cases names with
    | nil => simp
    | cons name rest =>
      have hShort :
          (rest.filter fun other => !other == name).length < length := by
        rw [← hLength]
        exact Nat.lt_succ_of_le (List.length_filter_le ..)
      rcases ih _ hShort _ rfl with ⟨hSublist, hNodup⟩
      rw [List.eraseDups_cons]
      constructor
      · exact (hSublist.trans List.filter_sublist).cons_cons name
      · rw [List.nodup_cons, List.mem_eraseDups]
        exact ⟨by simp, hNodup⟩

theorem nodup_names
    (t : FileTree)
    (loc : Location) :
    (t.names loc).Nodup :=
  (eraseDups_sublist_and_nodup _).2

/- The names in a directory ascend, bytes compared. -/
theorem ascending_names
    (t : FileTree)
    (loc : Location) :
    (t.names loc).Pairwise fun a b =>
      RawByte.encode a ≤ RawByte.encode b := by
  have hTrans :
      ∀ a b c,
        RawByte.precedes a b = true →
        RawByte.precedes b c = true →
        RawByte.precedes a c = true := by
    intro a b c hAb hBc
    simp only [RawByte.precedes, decide_eq_true_eq] at hAb hBc ⊢
    exact List.le_trans hAb hBc
  have hTotal :
      ∀ a b, (RawByte.precedes a b || RawByte.precedes b a) = true := by
    intro a b
    simpa [RawByte.precedes] using
      List.le_total (RawByte.encode a) (RawByte.encode b)
  have hSorted := List.pairwise_mergeSort hTrans hTotal
  unfold names
  refine ((hSorted _).sublist (eraseDups_sublist_and_nodup _).1).imp ?_
  simp [RawByte.precedes]

theorem childName?_append_singleton
    (loc : Location)
    (name : String) :
    childName? loc (loc ++ [name]) = some name := by
  induction loc with
  | nil => rfl
  | cons first rest ih => simp [childName?, ih]

/- The names in a directory are those of its entries. -/
theorem mem_names_iff
    {name : String} :
    name ∈ t.names loc ↔ (t.node? (loc ++ [name])).isSome := by
  have hLookup :
      (t.node? (loc ++ [name])).isSome ↔
        ∃ entry ∈ t.nodes, loc ++ [name] = entry.1 := by
    simp [node?, List.lookup_isSome_iff]
  rw [hLookup]
  constructor
  · intro hName
    rcases mem_nodes_of_mem_names hName with ⟨node, hNode⟩
    exact ⟨_, hNode, rfl⟩
  · rintro ⟨entry, hNode, hPlace⟩
    have hChild := childName?_append_singleton loc name
    rw [hPlace] at hChild
    unfold names
    rw [List.mem_eraseDups, List.mem_mergeSort]
    exact List.mem_filterMap.mpr ⟨entry, hNode, hChild⟩

------------------------------------------------------------
-- Items Apart
------------------------------------------------------------

section

variable {related : String → String → Prop}

/- The items of a branch behind a name have this name in their paths. -/
theorem parts_of_mem_branch_join
    {name : String}
    (hNames : t.WellNamed)
    (hPath : path ≠ "")
    (hName : Path.IsName name)
    (hItem : item ∈ t.branch cwd above (path.join name) loc) :
    ∃ below, item.path.parts = path.parts ++ name :: below := by
  rcases path_of_mem_branch hNames hItem with ⟨names, hProper, hEq⟩
  refine ⟨names, ?_⟩
  rw [hEq,
    Path.parts_foldl_join (Path.join_name_ne_empty hPath hName) hProper,
    Path.parts_join hPath hName, List.append_assoc,
    List.singleton_append]

/-
  By induction on the visit: items of one branch are apart
  because those of a visit are, and items of two branches part
  at the names of these.
-/
theorem pairwise_visit
    (hNames : t.WellNamed)
    (hRelated : ∀ dir, (t.names dir).Pairwise related)
    (above : List Location)
    (path : Path)
    (loc : Location)
    (hPath : path ≠ "") :
    (t.visit cwd above path loc).Pairwise fun x y =>
      Path.PartBy related x.path y.path := by
  induction above, path, loc using visit_induction t cwd with
  | hStep above path loc ih =>
    rw [visit_eq_branches, List.pairwise_flatMap]
    constructor
    · intro name hName
      have hProper := isName_of_mem_names hNames hName
      cases hEntered :
          t.entered? cwd (loc :: above) (path.join name)
            (loc ++ [name]) with
      | some dest =>
        rw [branch_of_entered hEntered]
        exact
          ih name dest hEntered (Path.join_name_ne_empty hPath hProper)
      | none =>
        rw [branch_of_not_entered hEntered]
        cases t.ownItem? cwd (loc :: above) (path.join name)
            (loc ++ [name]) with
        | none => exact List.Pairwise.nil
        | some own => exact List.pairwise_singleton _ _
    · apply (hRelated loc).imp_of_mem
      intro a b hA hB hRel x hX y hY
      rcases parts_of_mem_branch_join hNames hPath
          (isName_of_mem_names hNames hA) hX with ⟨behind, hBehind⟩
      rcases parts_of_mem_branch_join hNames hPath
          (isName_of_mem_names hNames hB) hY with ⟨later, hLater⟩
      exact ⟨path.parts, a, b, behind, later, hBehind, hLater, hRel⟩

theorem ne_empty_of_resolved
    {found : Location × Node}
    (hRoot : t.resolved? cwd root = some found) :
    root ≠ "" := by
  rintro rfl
  simp [resolved?, locate, pathFault?] at hRoot

theorem pairwise_walk
    (hNames : t.WellNamed)
    (hRelated : ∀ dir, (t.names dir).Pairwise related) :
    (t.walk cwd root).Pairwise fun x y =>
      Path.PartBy related x.path y.path := by
  rcases walk_cases t cwd root with
    ⟨_, error, hWalk⟩ | ⟨dest, hRoot, hWalk⟩ | ⟨_, _, _, _, hWalk⟩ |
      ⟨_, _, _, _, _, hWalk⟩
  · rw [hWalk]
    exact List.pairwise_singleton _ _
  · rw [hWalk]
    exact
      pairwise_visit hNames hRelated [] root dest
        (ne_empty_of_resolved hRoot)
  · rw [hWalk]
    exact List.pairwise_singleton _ _
  · rw [hWalk]
    exact List.Pairwise.nil

end

/- No two items of a walk have the same path. -/
theorem nodup_parts_walk
    (cwd : Location)
    (root : Path)
    (hNames : t.WellNamed) :
    ((t.walk cwd root).map fun item => item.path.parts).Nodup := by
  apply List.pairwise_map.mpr
  exact (pairwise_walk hNames (nodup_names t)).imp Path.PartBy.ne

end FileTree

end TreeLint
