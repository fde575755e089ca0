import TreeLint.Proofs.FileTree.Ways
import TreeLint.Proofs.Text.HeldBytes

/-
  The order of a walk.

  Key definitions include:
    * `Path.Before`
    * `FileTree.NamesHeld`

  Key theorems include:
    * `Path.PartBy.before`
    * `FileTree.strictly_ascending_names`
    * `walk_ascends`

  Names are compared by their bytes and paths part by part.
  This differs from comparing the bytes of the paths: a slash
  is a byte like another there, and `-` comes before it.
-/

------------------------------------------------------------
-- The Order Of Paths
------------------------------------------------------------

namespace TreeLint

namespace Path

/- The parts of a path come before those of another, bytes compared. -/
def Before (p q : Path) : Prop :=
  p.parts.map RawByte.encode < q.parts.map RawByte.encode

instance (p q : Path) : Decidable (Before p q) :=
  inferInstanceAs (Decidable (_ < _))

/- Where the first names that differ ascend, the paths do. -/
theorem PartBy.before
    {p q : Path}
    (hPart :
      PartBy (fun a b => RawByte.encode a < RawByte.encode b) p q) :
    Before p q := by
  rcases hPart with ⟨front, a, b, behind, later, hLeft, hRight, hLt⟩
  unfold Before
  rw [hLeft, hRight, List.map_append, List.map_append, List.map_cons,
    List.map_cons]
  exact List.append_left_lt (List.cons_lt_cons_iff.mpr (.inl hLt))

end Path

------------------------------------------------------------
-- Names In A Directory
------------------------------------------------------------

namespace FileTree

/- Every name in a tree holds the bytes of a name on disk. -/
def NamesHeld (t : FileTree) : Prop :=
  ∀ entry ∈ t.nodes, ∀ name ∈ entry.1, RawByte.IsHeld name

section

variable {t : FileTree} {cwd loc : Location} {root : Path}

theorem isHeld_of_mem_names
    {name : String}
    (hHeld : t.NamesHeld)
    (hName : name ∈ t.names loc) :
    RawByte.IsHeld name := by
  rcases mem_nodes_of_mem_names hName with ⟨node, hNode⟩
  exact hHeld _ hNode name (by simp)

/-
  Different names have different bytes, so the names in a
  directory ascend without repetition.
-/
theorem strictly_ascending_names
    (t : FileTree)
    (hHeld : t.NamesHeld)
    (loc : Location) :
    (t.names loc).Pairwise fun a b =>
      RawByte.encode a < RawByte.encode b := by
  have hBoth := (t.ascending_names loc).and (t.nodup_names loc)
  apply hBoth.imp_of_mem
  rintro a b hA hB ⟨hLe, hNe⟩
  by_contra hNotLt
  have hGe : RawByte.encode b ≤ RawByte.encode a :=
    List.not_lt.mp hNotLt
  have hSame := List.le_antisymm hLe hGe
  exact
    hNe
      ((isHeld_of_mem_names hHeld hA).eq_of_encode_eq
        (isHeld_of_mem_names hHeld hB) hSame)

------------------------------------------------------------
-- Items In Order
------------------------------------------------------------

/- The items of a walk ascend, files and faults alike. -/
theorem ascending_walk
    (hNames : t.WellNamed)
    (hHeld : t.NamesHeld) :
    (t.walk cwd root).Pairwise fun x y => Path.Before x.path y.path :=
  (pairwise_walk hNames (t.strictly_ascending_names hHeld)).imp
    Path.PartBy.before

end

end FileTree

/-
  The files of a walk come in ascending order, part by part
  and without repetition, whatever is met on the way: files,
  directories, links to either, and faults.
-/
theorem walk_ascends
    (t : FileTree)
    (cwd : Location)
    (root : Path)
    (hNames : t.WellNamed)
    (hHeld : t.NamesHeld) :
    ((t.walk cwd root).filterMap WalkItem.file?).Pairwise Path.Before := by
  apply (FileTree.ascending_walk hNames hHeld).filterMap
  intro x y hBefore p hP q hQ
  rw [WalkItem.file?_eq_some_iff.mp hP, WalkItem.file?_eq_some_iff.mp hQ]
    at hBefore
  exact hBefore

------------------------------------------------------------
-- A Name That Starts Like Another
------------------------------------------------------------

namespace Prefixed

/-
  A link to a directory, the directory, and a file whose name
  starts with that of the directory.
-/
def tree : FileTree where
  nodes :=
    [ (["w"], .directory),
      (["w", "Z"], .link "/w/a"),
      (["w", "a"], .directory),
      (["w", "a", "x"], .file [] false),
      (["w", "a-b"], .file [] false) ]

theorem names_w :
    tree.names ["w"] = ["Z", "a", "a-b"] := by
  have hSorted :
      (["Z", "a", "a-b"] : List String).Pairwise fun a b =>
        RawByte.precedes a b = true := by
    simp only [RawByte.precedes, RawByte.encode_eq]
    decide
  have hNames :
      tree.names ["w"] =
        ((["Z", "a", "a-b"] : List String).mergeSort
          RawByte.precedes).eraseDups :=
    rfl
  rw [hNames, List.mergeSort_of_pairwise hSorted]
  decide

theorem names_a :
    tree.names ["w", "a"] = ["x"] := by
  simp [FileTree.names, tree, FileTree.childName?]
  rfl

/- The directory can be visited under any path. -/
theorem visit_a
    (path : Path) :
    tree.visit [] [["w"]] path ["w", "a"] = [.file (path.join "x")] := by
  rw [FileTree.visit_eq_branches, names_a]
  rfl

theorem entered?_link :
    tree.entered? [] [["w"]] (Path.join "/w" "Z") ["w", "Z"] =
      some ["w", "a"] := by
  have hDest :
      tree.resolved? [] "/w/Z" = some (["w", "a"], .directory) :=
    @FileTree.resolved?_of_link tree [] ["w"] ["w", "a"] "Z" _
      (by decide) rfl (by decide) (by decide) rfl rfl
  refine FileTree.entered?_eq_some_iff.mpr (.inr ⟨⟨"/w/a", rfl⟩, ?_, ?_⟩)
  · exact FileTree.directory?_eq_some_iff.mpr hDest
  · decide

theorem walk_w :
    tree.walk [] "/w" =
      [.file "/w/Z/x", .file "/w/a/x", .file "/w/a-b"] := by
  have hRoot : tree.resolved? [] "/w" = some (["w"], .directory) :=
    @FileTree.resolved?_of_isPlain tree [] ["w"] _ (by decide) rfl rfl
  have hLink :
      tree.branch [] [["w"]] (Path.join "/w" "Z") ["w", "Z"] =
        [.file "/w/Z/x"] := by
    rw [FileTree.branch_of_entered entered?_link, visit_a]
    decide
  have hDirectory :
      tree.branch [] [["w"]] (Path.join "/w" "a") ["w", "a"] =
        [.file "/w/a/x"] := by
    have hEntered :
        tree.entered? [] [["w"]] (Path.join "/w" "a") ["w", "a"] =
          some ["w", "a"] :=
      rfl
    rw [FileTree.branch_of_entered hEntered, visit_a]
    decide
  have hFile :
      tree.branch [] [["w"]] (Path.join "/w" "a-b") ["w", "a-b"] =
        [.file "/w/a-b"] := by
    decide
  rw [FileTree.walk_of_directory (FileTree.directory?_eq_some_iff.mpr hRoot),
    FileTree.visit_eq_branches, names_w]
  simp only [List.flatMap_cons, List.flatMap_nil, List.singleton_append,
    hLink, hDirectory, hFile]

end Prefixed

/-
  What lies in the directory comes before the file, although
  the path of the file comes first if their bytes are compared.
-/
open Prefixed in
theorem walk_ascends_through_prefix :
    tree.WellNamed ∧ tree.NamesHeld ∧
    (tree.walk [] "/w").filterMap WalkItem.file? =
      ["/w/Z/x", "/w/a/x", "/w/a-b"] ∧
    Path.Before "/w/a/x" "/w/a-b" ∧
    RawByte.precedes "/w/a-b" "/w/a/x" = true := by
  have hNames : tree.WellNamed := by decide
  have hHeld : tree.NamesHeld := by
    have hPlain :
        ∀ entry ∈ tree.nodes, ∀ name ∈ entry.1,
          RawByte.isPlain name = true := by
      decide
    exact fun entry hEntry name hName =>
      RawByte.isHeld_of_isPlain (hPlain entry hEntry name hName)
  have hFiles :
      (tree.walk [] "/w").filterMap WalkItem.file? =
        ["/w/Z/x", "/w/a/x", "/w/a-b"] := by
    rw [walk_w]
    rfl
  have hAscends := walk_ascends tree [] "/w" hNames hHeld
  rw [hFiles] at hAscends
  refine ⟨hNames, hHeld, hFiles, ?_, ?_⟩
  · exact (List.pairwise_cons.mp (List.pairwise_cons.mp hAscends).2).1 _
      List.mem_cons_self
  · simp only [RawByte.precedes, RawByte.encode_eq]
    decide

end TreeLint
