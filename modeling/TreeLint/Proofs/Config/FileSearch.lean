import TreeLint.Config.Load
import TreeLint.Proofs.FileTree.Located

/-
  Which files of settings are found.

  Key definitions include:
    * `Config.IsFileAbove`

  Key theorems include:
    * `Config.isSome_searchUp_iff`
    * `Config.isSome_findFile?_iff`
    * `Config.findFile?_of_read?`
    * `Config.findFile?_of_missing`

  An absolute name is taken as it stands.  A relative one is
  looked for in the working directory and in each directory
  above it, and only regular files count.
-/

------------------------------------------------------------
-- Searching For A File
------------------------------------------------------------

namespace TreeLint

namespace FileTree

variable {t : FileTree} {cwd : Location} {name : Path}

/- From where an absolute path is followed makes no difference. -/
theorem resolved?_of_isAbsolute
    (hAbsolute : name.isAbsolute = true)
    (other : Location) :
    t.resolved? cwd name = t.resolved? other name := by
  unfold resolved? locate origin
  simp only [hAbsolute, if_true]

theorem read?_of_isAbsolute
    (hAbsolute : name.isAbsolute = true)
    (other : Location) :
    t.read? cwd name = t.read? other name := by
  unfold read?
  rw [resolved?_of_isAbsolute hAbsolute other]

theorem pathExists_of_isAbsolute
    (hAbsolute : name.isAbsolute = true)
    (other : Location) :
    t.pathExists cwd name = t.pathExists other name := by
  unfold pathExists
  rw [resolved?_of_isAbsolute hAbsolute other]

/- An empty path leads nowhere. -/
theorem read?_of_isEmpty
    (hName : name.isEmpty = true) :
    t.read? cwd name = none := by
  unfold read? resolved? locate pathFault?
  simp only [hName, if_true]

theorem pathExists_of_isFile
    (hFile : t.isFile cwd name = true) :
    t.pathExists cwd name = true := by
  unfold isFile read? at hFile
  unfold pathExists
  split at hFile
  · next hNode => rw [hNode]; rfl
  · cases hFile

end FileTree

namespace Config

variable {t : FileTree} {cwd : Location} {name : Path}

/-
  A search finds a file if one of the directories in which it
  looks holds one.  By induction on how many these are.
-/
theorem isSome_searchUp_iff
    {levels : Nat} :
    (searchUp t name levels cwd).isSome = true ↔
      ∃ up < levels,
        t.isFile (cwd.take (cwd.length - up)) name = true := by
  induction levels generalizing cwd with
  | zero => simp [searchUp]
  | succ levels ih =>
    rw [searchUp]
    split
    · next content hRead =>
      refine iff_of_true rfl ⟨0, Nat.succ_pos levels, ?_⟩
      simp [FileTree.isFile, hRead]
    · next hRead =>
      have hStep :
          ∀ up,
            cwd.dropLast.take (cwd.dropLast.length - up) =
              cwd.take (cwd.length - (up + 1)) := by
        intro up
        rw [List.dropLast_eq_take, List.take_take, List.length_take]
        congr 1
        omega
      rw [ih]
      constructor
      · rintro ⟨up, hUp, hFile⟩
        exact ⟨up + 1, Nat.succ_lt_succ hUp, hStep up ▸ hFile⟩
      · rintro ⟨up, hUp, hFile⟩
        cases up with
        | zero => simp [FileTree.isFile, hRead] at hFile
        | succ up =>
          exact ⟨up, Nat.lt_of_succ_lt_succ hUp, hStep up ▸ hFile⟩

/- Whether a relative name leads to a file from further up. -/
def IsFileAbove (t : FileTree) (cwd : Location) (name : Path) : Prop :=
  name.isAbsolute = false ∧
  ∃ n < cwd.length, t.isFile (cwd.take n) name = true

/- A file is found where its name leads to, or further up. -/
theorem isSome_findFile?_iff :
    (findFile? t cwd name).isSome = true ↔
      t.isFile cwd name = true ∨ IsFileAbove t cwd name := by
  unfold findFile?
  split
  · next hAbsolute =>
    rw [FileTree.read?_of_isAbsolute hAbsolute cwd]
    simp [IsFileAbove, hAbsolute, FileTree.isFile]
  · next hRelative =>
    split
    · next hEmpty =>
      simp [IsFileAbove, FileTree.isFile,
        FileTree.read?_of_isEmpty hEmpty]
    · rw [isSome_searchUp_iff]
      constructor
      · rintro ⟨up, hUp, hFile⟩
        by_cases hHere : up = 0
        · subst hHere
          rw [Nat.sub_zero, List.take_length] at hFile
          exact .inl hFile
        · refine
            .inr ⟨Bool.eq_false_iff.mpr hRelative, cwd.length - up, ?_,
              hFile⟩
          omega
      · rintro (hFile | ⟨-, n, hAbove, hFile⟩)
        · refine ⟨0, Nat.succ_pos _, ?_⟩
          rwa [Nat.sub_zero, List.take_length]
        · refine ⟨cwd.length - n, by omega, ?_⟩
          rwa [Nat.sub_sub_self (Nat.le_of_lt hAbove)]

theorem findFile?_eq_none_iff :
    findFile? t cwd name = none ↔
      ¬ (t.isFile cwd name = true ∨ IsFileAbove t cwd name) := by
  rw [← isSome_findFile?_iff, Option.not_isSome_iff_eq_none]

/- The working directory comes first. -/
theorem findFile?_of_read?
    {content : List UInt8}
    (hRelative : name.isAbsolute = false)
    (hName : name.isEmpty = false)
    (hRead : t.read? cwd name = some content) :
    findFile? t cwd name = some content := by
  unfold findFile?
  simp [hRelative, hName, searchUp, hRead]

/-
  Nothing is found where no directory on the way up has what
  the name begins with.
-/
theorem findFile?_of_missing
    {first : String}
    {rest : List String}
    (hSegments : name.segments = first :: rest)
    (hFirst : Path.IsName first)
    (hRelative : name.isAbsolute = false)
    (hMissing :
      ∀ n ≤ cwd.length,
        t.node? (cwd.take n) = some .directory ∧
        t.node? (cwd.take n ++ [first]) = none) :
    findFile? t cwd name = none := by
  have hNowhere :
      ∀ n ≤ cwd.length, t.isFile (cwd.take n) name = false := by
    intro n hCount
    obtain ⟨hDirectory, hNone⟩ := hMissing n hCount
    rw [FileTree.isFile, FileTree.read?,
      FileTree.resolved?_of_missing hSegments hFirst hRelative hDirectory
        hNone]
    rfl
  rw [findFile?_eq_none_iff]
  rintro (hFile | ⟨-, n, hAbove, hFile⟩)
  · have hHere := hNowhere cwd.length (Nat.le_refl _)
    rw [List.take_length, hFile] at hHere
    cases hHere
  · rw [hNowhere n (Nat.le_of_lt hAbove)] at hFile
    cases hFile

end Config

end TreeLint
