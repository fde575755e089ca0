import Mathlib.Data.List.Basic
import TreeLint.FileTree.Walk
import TreeLint.Proofs.Path.Places

/-
  Where the items of a walk lie.

  Key definitions include:
    * `FileTree.WellNamed`
    * `WalkItem.path`

  Key theorems include:
    * `FileTree.visit_eq`
    * `FileTree.walk_of_files`
    * `FileTree.path_of_mem_visit`
    * `FileTree.path_of_mem_walk`

  Every item of a walk lies at the root or below it: its path
  is that of the root with names of entries joined to it.
-/

------------------------------------------------------------
-- Names In A Tree
------------------------------------------------------------

namespace TreeLint

namespace FileTree

/- Every name in a tree is one that an entry can have. -/
def WellNamed (t : FileTree) : Prop :=
  ∀ entry ∈ t.nodes, Location.IsProper entry.1

instance : DecidablePred WellNamed :=
  fun t => inferInstanceAs (Decidable (∀ entry ∈ t.nodes, _))

theorem eq_append_of_childName?_eq_some
    {above below : Location}
    {name : String}
    (hChild : childName? above below = some name) :
    below = above ++ [name] := by
  induction above generalizing below with
  | nil =>
    cases below with
    | nil => cases hChild
    | cons first rest =>
      cases rest with
      | nil =>
        cases hChild
        rfl
      | cons second others => cases hChild
  | cons a above ih =>
    cases below with
    | nil => cases hChild
    | cons b below =>
      simp only [childName?] at hChild
      split at hChild
      · next hEq => rw [hEq, ih hChild, List.cons_append]
      · cases hChild

/- The names in a directory are those of nodes in the tree. -/
theorem mem_nodes_of_mem_names
    {t : FileTree}
    {loc : Location}
    {name : String}
    (hName : name ∈ t.names loc) :
    ∃ node, (loc ++ [name], node) ∈ t.nodes := by
  unfold names at hName
  rw [List.mem_eraseDups, List.mem_mergeSort] at hName
  rcases List.mem_filterMap.mp hName with
    ⟨⟨place, node⟩, hNode, hChild⟩
  rw [← eq_append_of_childName?_eq_some hChild]
  exact ⟨node, hNode⟩

theorem isName_of_mem_names
    {t : FileTree}
    {loc : Location}
    {name : String}
    (hNames : t.WellNamed)
    (hName : name ∈ t.names loc) :
    Path.IsName name := by
  rcases mem_nodes_of_mem_names hName with ⟨node, hNode⟩
  exact hNames _ hNode name (by simp)

/- A node of a tree has a proper location. -/
theorem isProper_of_node?_eq_some
    {t : FileTree}
    {loc : Location}
    {node : Node}
    (hNames : t.WellNamed)
    (hNode : t.node? loc = some node) :
    loc.IsProper := by
  unfold node? at hNode
  split at hNode
  · next hEmpty =>
    rw [List.isEmpty_iff.mp hEmpty]
    simp [Location.IsProper]
  · exact hNames _ (mem_of_lookup_eq_some hNode)

------------------------------------------------------------
-- Visits
------------------------------------------------------------

/- A visit lists what each name in the directory comes to. -/
theorem visit_eq
    (t : FileTree)
    (cwd : Location)
    (above : List Location)
    (path : Path)
    (loc : Location) :
    t.visit cwd above path loc =
      (t.names loc).flatMap fun name =>
        match t.sight cwd (path.join name) (loc ++ [name]) with
        | .file => [.file (path.join name)]
        | .other => []
        | .broken error => [.fault (.unreachable error) (path.join name)]
        | .directory =>
          t.visit cwd (loc :: above) (path.join name) (loc ++ [name])
        | .linkedDirectory dest =>
          if dest ∈ loc :: above then
            [.fault .loop (path.join name)]
          else
            t.visit cwd (loc :: above) (path.join name) dest := by
  rw [visit]
  congr 1
  funext name
  split <;> simp_all

/- A walk of a directory that holds nothing but files. -/
theorem walk_of_files
    {t : FileTree}
    {cwd : Location}
    {root : Path}
    {loc : Location}
    (hRoot : t.locateEntry cwd root = .ok loc)
    (hDirectory : t.sight cwd root loc = .directory)
    (hFiles :
      ∀ name ∈ t.names loc,
        t.sight cwd (root.join name) (loc ++ [name]) = .file) :
    t.walk cwd root =
      (t.names loc).map fun name => .file (root.join name) := by
  unfold walk
  rw [hRoot]
  simp only [hDirectory]
  rw [visit_eq, List.map_eq_flatMap]
  apply List.flatMap_congr
  intro name hName
  rw [hFiles name hName]

theorem walk_of_no_names
    {t : FileTree}
    {cwd : Location}
    {root : Path}
    {loc : Location}
    (hRoot : t.locateEntry cwd root = .ok loc)
    (hDirectory : t.sight cwd root loc = .directory)
    (hNames : t.names loc = []) :
    t.walk cwd root = [] := by
  rw [walk_of_files hRoot hDirectory (by simp [hNames]), hNames,
    List.map_nil]

theorem walk_of_lone_file
    {t : FileTree}
    {cwd : Location}
    {root : Path}
    {loc : Location}
    {name : String}
    (hRoot : t.locateEntry cwd root = .ok loc)
    (hDirectory : t.sight cwd root loc = .directory)
    (hNames : t.names loc = [name])
    (hFile :
      t.sight cwd (root.join name) (loc ++ [name]) = .file) :
    t.walk cwd root = [.file (root.join name)] := by
  rw [walk_of_files hRoot hDirectory (by simpa [hNames] using hFile),
    hNames, List.map_singleton]

end FileTree

/- The path of an item. -/
def WalkItem.path : WalkItem → Path
  | file path => path
  | fault _ path => path

namespace FileTree

/-
  By induction on the visit: what a name comes to is an item
  at that name, or a visit of something below it.
-/
theorem path_of_mem_visit
    {t : FileTree}
    {cwd : Location}
    (hNames : t.WellNamed)
    (above : List Location)
    (path : Path)
    (loc : Location)
    {item : WalkItem}
    (hItem : item ∈ t.visit cwd above path loc) :
    ∃ names : Location,
      names ≠ [] ∧ names.IsProper ∧
        item.path = names.foldl Path.join path := by
  induction above, path, loc using visit.induct t cwd with
  | case1 above path loc ihDirectory ihLinked =>
    rw [visit_eq] at hItem
    rcases List.mem_flatMap.mp hItem with ⟨name, hName, hIn⟩
    have hProper : Location.IsProper [name] := by
      simpa [Location.IsProper] using isName_of_mem_names hNames hName
    split at hIn
    · rw [List.mem_singleton.mp hIn]
      exact ⟨[name], List.cons_ne_nil _ _, hProper, rfl⟩
    · cases hIn
    · rw [List.mem_singleton.mp hIn]
      exact ⟨[name], List.cons_ne_nil _ _, hProper, rfl⟩
    · next hSight =>
      rcases ihDirectory name hSight hIn with
        ⟨below, _, hBelow, hPath⟩
      exact
        ⟨name :: below, List.cons_ne_nil _ _,
          Location.isProper_append.mpr ⟨hProper, hBelow⟩, hPath⟩
    · next dest hSight =>
      split at hIn
      · rw [List.mem_singleton.mp hIn]
        exact ⟨[name], List.cons_ne_nil _ _, hProper, rfl⟩
      · next hNew =>
        rcases ihLinked name dest hSight hNew hIn with
          ⟨below, _, hBelow, hPath⟩
        exact
          ⟨name :: below, List.cons_ne_nil _ _,
            Location.isProper_append.mpr ⟨hProper, hBelow⟩, hPath⟩

/- An item of a walk lies at its root or below it. -/
theorem path_of_mem_walk
    {t : FileTree}
    {cwd : Location}
    {root : Path}
    (hNames : t.WellNamed)
    {item : WalkItem}
    (hItem : item ∈ t.walk cwd root) :
    ∃ names : Location,
      names.IsProper ∧ item.path = names.foldl Path.join root := by
  have hEmpty : Location.IsProper [] := by simp [Location.IsProper]
  unfold walk at hItem
  split at hItem
  · rw [List.mem_singleton.mp hItem]
    exact ⟨[], hEmpty, rfl⟩
  · split at hItem
    · rw [List.mem_singleton.mp hItem]
      exact ⟨[], hEmpty, rfl⟩
    · cases hItem
    · rw [List.mem_singleton.mp hItem]
      exact ⟨[], hEmpty, rfl⟩
    · rcases path_of_mem_visit hNames _ _ _ hItem with
        ⟨names, _, hProper, hPath⟩
      exact ⟨names, hProper, hPath⟩
    · rcases path_of_mem_visit hNames _ _ _ hItem with
        ⟨names, _, hProper, hPath⟩
      exact ⟨names, hProper, hPath⟩

/- An item of a walk of a place is a place at it or below it. -/
theorem place_of_mem_walk
    {t : FileTree}
    {cwd place : Location}
    (hNames : t.WellNamed)
    (hPlace : place.IsProper)
    {item : WalkItem}
    (hItem : item ∈ t.walk cwd place.toPath) :
    ∃ below : Location,
      Location.IsProper (place ++ below) ∧
        item.path = Location.toPath (place ++ below) := by
  rcases path_of_mem_walk hNames hItem with ⟨below, hBelow, hPath⟩
  rw [Location.foldl_join_toPath hPlace hBelow] at hPath
  exact ⟨below, Location.isProper_append.mpr ⟨hPlace, hBelow⟩, hPath⟩

end FileTree

end TreeLint
