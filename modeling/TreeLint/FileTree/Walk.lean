import TreeLint.FileTree.Basic

/-
  Walking a file tree.

  Key definitions include:
    * `FileTree.Sight`
    * `FileTree.sight`
    * `WalkItem`
    * `FileTree.visit`
    * `FileTree.walk`

  A walk lists the regular files below a root.  Links are
  followed, the names in a directory come in ascending order,
  and what cannot be entered is listed as a fault while the
  walk goes on.  Only a link is refused when it leads back to
  a directory on the way to it; that is enough to end every
  walk, since the directories entered through links on one
  way are then all different.
-/

------------------------------------------------------------
-- What An Entry Is
------------------------------------------------------------

namespace TreeLint

namespace FileTree

/- What an entry of a directory turns out to be. -/
inductive Sight where
  | file
  | directory
  /- A link that leads to the directory at a location. -/
  | linkedDirectory (loc : Location)
  /- Something that is neither a file nor a directory. -/
  | other
  | broken (error : PathError)

/-
  Look at the entry at a location, which has a path.  A link
  is followed along this path from its beginning.
-/
def sight
    (t : FileTree)
    (cwd : Location)
    (path : Path)
    (loc : Location) : Sight :=
  match t.node? loc with
  | none => .broken .notFound
  | some .directory => .directory
  | some (.file _ _) => .file
  | some .pipe => .other
  | some (.link _) =>
    match t.locate cwd path with
    | .error error => .broken error
    | .ok dest =>
      match t.node? dest with
      | none => .broken .notFound
      | some .directory => .linkedDirectory dest
      | some (.file _ _) => .file
      | some _ => .other

theorem node?_of_sight_eq_directory
    {t : FileTree}
    {cwd : Location}
    {path : Path}
    {loc : Location}
    (hSight : t.sight cwd path loc = .directory) :
    t.node? loc = some .directory := by
  simp only [sight] at hSight
  split at hSight
  · cases hSight
  · assumption
  · cases hSight
  · cases hSight
  · split at hSight
    · cases hSight
    · split at hSight <;> cases hSight

theorem node?_of_sight_eq_linkedDirectory
    {t : FileTree}
    {cwd : Location}
    {path : Path}
    {loc dest : Location}
    (hSight : t.sight cwd path loc = .linkedDirectory dest) :
    t.node? dest = some .directory := by
  simp only [sight] at hSight
  split at hSight
  · cases hSight
  · cases hSight
  · cases hSight
  · cases hSight
  · split at hSight
    · cases hSight
    · split at hSight
      · cases hSight
      · cases hSight
        assumption
      · cases hSight
      · cases hSight

------------------------------------------------------------
-- Directories Not On The Way
------------------------------------------------------------

/- How many directories are not among those on the way. -/
def offWay (t : FileTree) (way : List Location) : Nat :=
  t.directories.countP (fun loc => !way.contains loc)

theorem countP_off_cons_le
    (dirs : List Location)
    (loc : Location)
    (way : List Location) :
    dirs.countP (fun dir => !(loc :: way).contains dir)
      ≤ dirs.countP (fun dir => !way.contains dir) := by
  apply List.countP_mono_left
  intro dir _ hOff
  simp_all

theorem offWay_cons_le
    (t : FileTree)
    (loc : Location)
    (way : List Location) :
    t.offWay (loc :: way) ≤ t.offWay way :=
  countP_off_cons_le ..

/- A directory that joins the way is one less off it. -/
theorem offWay_cons_lt
    {t : FileTree}
    {loc : Location}
    {way : List Location}
    (hDir : loc ∈ t.directories)
    (hNew : loc ∉ way) :
    t.offWay (loc :: way) < t.offWay way := by
  unfold offWay
  generalize t.directories = dirs at hDir
  induction dirs with
  | nil => cases hDir
  | cons dir rest ih =>
    have hLe := countP_off_cons_le rest loc way
    by_cases hSame : dir = loc
    · subst hSame
      rw [List.countP_cons_of_neg (by simp),
        List.countP_cons_of_pos (by simpa using hNew)]
      exact Nat.lt_succ_of_le hLe
    · have hIn : loc ∈ rest := by
        rcases List.mem_cons.mp hDir with hEq | hIn
        · exact absurd hEq.symm hSame
        · exact hIn
      have hLt := ih hIn
      by_cases hWay : dir ∈ way
      · rw [List.countP_cons_of_neg (by simp [hWay]),
          List.countP_cons_of_neg (by simp [hWay])]
        exact hLt
      · rw [List.countP_cons_of_pos (by simp [hWay, hSame]),
          List.countP_cons_of_pos (by simp [hWay])]
        exact Nat.succ_lt_succ hLt

------------------------------------------------------------
-- Walks
------------------------------------------------------------

end FileTree

/- Why a walk could not go on at a path. -/
inductive WalkFault where
  /- A link leads back to a directory on the way to it. -/
  | loop
  | unreachable (error : FileTree.PathError)
deriving DecidableEq, Repr

/- One item of a walk. -/
inductive WalkItem where
  | file (path : Path)
  | fault (fault : WalkFault) (path : Path)
deriving DecidableEq, Repr

namespace FileTree

/-
  Walk the directory at a location, which was reached under a
  path; `above` are the directories on the way to it.
-/
def visit
    (t : FileTree)
    (cwd : Location)
    (above : List Location)
    (path : Path)
    (loc : Location) : List WalkItem :=
  (t.names loc).flatMap fun name =>
    match _hSight :
        t.sight cwd (path.join name) (loc ++ [name]) with
    | .file => [.file (path.join name)]
    | .other => []
    | .broken error => [.fault (.unreachable error) (path.join name)]
    | .directory =>
      t.visit cwd (loc :: above) (path.join name) (loc ++ [name])
    | .linkedDirectory dest =>
      if _hLoop : dest ∈ loc :: above then
        [.fault .loop (path.join name)]
      else
        t.visit cwd (loc :: above) (path.join name) dest
termination_by (t.offWay (loc :: above), t.height + 1 - loc.length)
decreasing_by
  · have hNode := node?_of_sight_eq_directory _hSight
    have hHeight := length_le_height hNode
    have hOff := t.offWay_cons_le (loc ++ [name]) (loc :: above)
    simp only [List.length_append, List.length_singleton] at hHeight ⊢
    rcases Nat.lt_or_eq_of_le hOff with hLt | hEq
    · exact Prod.Lex.left _ _ hLt
    · rw [hEq]
      apply Prod.Lex.right
      omega
  · have hNode := node?_of_sight_eq_linkedDirectory _hSight
    exact Prod.Lex.left _ _ (offWay_cons_lt (mem_directories hNode) _hLoop)

/-
  Walk everything below a path.  A path to a file is a walk
  of that file alone.
-/
def walk (t : FileTree) (cwd : Location) (root : Path) : List WalkItem :=
  match t.locateEntry cwd root with
  | .error error => [.fault (.unreachable error) root]
  | .ok loc =>
    match t.sight cwd root loc with
    | .file => [.file root]
    | .other => []
    | .broken error => [.fault (.unreachable error) root]
    | .directory => t.visit cwd [] root loc
    | .linkedDirectory dest => t.visit cwd [] root dest

end FileTree

end TreeLint
