import Mathlib.Data.Finset.Card
import TreeLint.Proofs.FileTree.Ways

/-
  The end of a walk.

  Key definitions include:
    * `FileTree.Level`
    * `FileTree.opening`
    * `FileTree.proceed`
    * `FileTree.Ends`
    * `FileTree.directoryCount`
    * `FileTree.directoryHeight`

  Key theorems include:
    * `FileTree.ends_visit`
    * `FileTree.Way.nodup_linked`
    * `FileTree.Way.length_le`
    * `walk_ends`

  Taken one entry at a time, a walk keeps the directories on
  the way to where it is, each with the names that are left.
  A directory that is no link is entered even when it is on
  the way already, so directories on one way can repeat.  Those
  that a link leads to cannot, and between two of them a way
  goes down the tree.  This bounds the length of every way.
-/

------------------------------------------------------------
-- Walking Entry By Entry
------------------------------------------------------------

namespace TreeLint

namespace FileTree

/- A directory on the way, and the names in it that are left. -/
structure Level where
  path : Path
  loc : Location
  names : List String
deriving DecidableEq, Repr

/-
  What comes of an entry: its own item, or the level of the
  directory that is entered.
-/
def opening
    (t : FileTree)
    (cwd : Location)
    (above : List Location)
    (path : Path)
    (loc : Location) : List WalkItem × List Level :=
  match t.entered? cwd above path loc with
  | some dest => ([], [⟨path, dest, t.names dest⟩])
  | none => ((t.ownItem? cwd above path loc).toList, [])

/-
  One step of a walk: leave the last directory on the way when
  no name is left in it, or go to its next entry.
-/
def proceed
    (t : FileTree)
    (cwd : Location)
    (rest : List Level) :
    Level → List WalkItem × List Level
  | ⟨_, _, []⟩ => ([], rest)
  | ⟨path, loc, name :: names⟩ =>
    let opened :=
      t.opening cwd (loc :: rest.map Level.loc) (path.join name)
        (loc ++ [name])
    (opened.1, opened.2 ++ ⟨path, loc, names⟩ :: rest)

/- The first step of a walk, from its root. -/
def start
    (t : FileTree)
    (cwd : Location)
    (root : Path) : List WalkItem × List Level :=
  match t.locateEntry cwd root with
  | .error error => ([.fault (.unreachable error) root], [])
  | .ok loc => t.opening cwd [] root loc

/-
  Finitely many steps lead from the levels to none, and these
  are their items.
-/
inductive Ends
    (t : FileTree)
    (cwd : Location) :
    List Level → List WalkItem → Prop where
  | done : Ends t cwd [] []
  | step
      {level : Level}
      {rest : List Level}
      {items : List WalkItem}
      (hRest : Ends t cwd (t.proceed cwd rest level).2 items) :
      Ends t cwd (level :: rest)
        ((t.proceed cwd rest level).1 ++ items)

section

variable {t : FileTree} {cwd loc : Location} {path : Path}
variable {above : List Location}

theorem opening_of_entered
    {dest : Location}
    (hEntered : t.entered? cwd above path loc = some dest) :
    t.opening cwd above path loc =
      ([], [⟨path, dest, t.names dest⟩]) := by
  rw [opening, hEntered]

theorem opening_of_not_entered
    (hEntered : t.entered? cwd above path loc = none) :
    t.opening cwd above path loc =
      ((t.ownItem? cwd above path loc).toList, []) := by
  rw [opening, hEntered]

theorem Ends.of_proceed_eq
    {level : Level}
    {rest levels : List Level}
    {found items : List WalkItem}
    (hProceed : t.proceed cwd rest level = (found, levels))
    (hLevels : t.Ends cwd levels items) :
    t.Ends cwd (level :: rest) (found ++ items) := by
  have hStep := @Ends.step t cwd level rest items
  rw [hProceed] at hStep
  exact hStep hLevels

/-
  By induction on the visit: the names of a directory are
  worked off one by one, and each directory that is entered
  ends before the next name.
-/
theorem ends_visit
    (above : List Location)
    (path : Path)
    (loc : Location)
    {rest : List Level}
    {items : List WalkItem}
    (hAbove : rest.map Level.loc = above)
    (hRest : t.Ends cwd rest items) :
    t.Ends cwd (⟨path, loc, t.names loc⟩ :: rest)
      (t.visit cwd above path loc ++ items) := by
  induction above, path, loc using visit_induction t cwd
    generalizing rest items with
  | hStep above path loc ih =>
    rw [visit_eq_branches]
    generalize t.names loc = names
    induction names with
    | nil => exact .of_proceed_eq rfl hRest
    | cons name names ihNames =>
      rw [List.flatMap_cons, List.append_assoc]
      cases hEntered :
          t.entered? cwd (loc :: above) (path.join name)
            (loc ++ [name]) with
      | some dest =>
        have hProceed :
            t.proceed cwd rest ⟨path, loc, name :: names⟩ =
              ([], ⟨path.join name, dest, t.names dest⟩ ::
                ⟨path, loc, names⟩ :: rest) := by
          rw [proceed, hAbove, opening_of_entered hEntered]
          rfl
        have hWay :
            (Level.mk path loc names :: rest).map Level.loc =
              loc :: above := by
          rw [List.map_cons, hAbove]
        rw [branch_of_entered hEntered]
        have hBelow := ih name dest hEntered hWay ihNames
        simpa using Ends.of_proceed_eq hProceed hBelow
      | none =>
        rw [branch_of_not_entered hEntered]
        refine .of_proceed_eq ?_ ihNames
        rw [proceed, hAbove, opening_of_not_entered hEntered]
        rfl

/- A walk is one branch, without directories on the way to it. -/
theorem walk_eq_branch
    (hEntry : t.locateEntry cwd path = .ok loc) :
    t.walk cwd path = t.branch cwd [] path loc := by
  unfold walk branch entered? ownItem?
  rw [hEntry]
  cases hSight : t.sight cwd path loc <;> simp [hSight]

/- After its first step, a walk ends with the rest of its items. -/
theorem ends_walk
    (t : FileTree)
    (cwd : Location)
    (root : Path) :
    ∃ items,
      t.Ends cwd (t.start cwd root).2 items ∧
      t.walk cwd root = (t.start cwd root).1 ++ items := by
  cases hEntry : t.locateEntry cwd root with
  | error error =>
    rw [start, walk, hEntry]
    exact ⟨[], .done, rfl⟩
  | ok loc =>
    rw [walk_eq_branch hEntry, start, hEntry]
    cases hEntered : t.entered? cwd [] root loc with
    | none =>
      simp only [opening_of_not_entered hEntered,
        branch_of_not_entered hEntered]
      exact ⟨[], .done, (List.append_nil _).symm⟩
    | some dest =>
      have hVisit := ends_visit [] root dest rfl (@Ends.done t cwd)
      rw [List.append_nil] at hVisit
      simp only [opening_of_entered hEntered, branch_of_entered hEntered]
      exact ⟨_, hVisit, rfl⟩

end

------------------------------------------------------------
-- The Length Of Ways
------------------------------------------------------------

/- The number of directories below the root of the tree. -/
def directoryCount (t : FileTree) : Nat :=
  (t.directories.toFinset.erase []).card

/- How deep the deepest directory lies. -/
def directoryHeight (t : FileTree) : Nat :=
  (t.directories.map List.length).foldr max 0

section

variable {t : FileTree} {cwd loc first : Location} {root : Path}
variable {names : List String} {above dirs linked : List Location}

theorem length_le_directoryHeight
    (hDir : t.node? loc = some .directory) :
    loc.length ≤ t.directoryHeight :=
  length_le_foldr_max (List.mem_map_of_mem (mem_directories hDir))

/-
  By induction on the way: no link leads to a directory that
  is on the way already, the first one included.
-/
theorem Way.nodup_linked
    (hFirst : t.directory? cwd root = some first)
    (hWay : t.Way cwd root names dirs linked) :
    (linked ++ [first]).Nodup ∧ linked ++ [first] ⊆ dirs := by
  induction hWay with
  | start hRoot =>
    rw [hFirst] at hRoot
    cases hRoot
    simp
  | enter hWay hName hNode ih =>
    exact ⟨ih.1, fun loc hLoc => List.mem_cons_of_mem _ (ih.2 hLoc)⟩
  | follow hWay hName hLink hDest hNew ih =>
    constructor
    · exact List.nodup_cons.mpr ⟨fun hOld => hNew (ih.2 hOld), ih.1⟩
    · exact List.cons_subset_cons _ ih.2

theorem Way.mem_directories
    (hWay : t.Way cwd root names dirs linked)
    (hDir : loc ∈ dirs) :
    loc ∈ t.directories := by
  induction hWay with
  | start hRoot =>
    rw [List.mem_singleton.mp hDir]
    exact FileTree.mem_directories (locate_of_directory? hRoot).2
  | enter hWay hName hNode ih =>
    rcases List.mem_cons.mp hDir with rfl | hAbove
    · exact FileTree.mem_directories hNode
    · exact ih hAbove
  | follow hWay hName hLink hDest hNew ih =>
    rcases List.mem_cons.mp hDir with rfl | hAbove
    · exact FileTree.mem_directories (locate_of_directory? hDest).2
    · exact ih hAbove

theorem Way.exists_first
    (hWay : t.Way cwd root names dirs linked) :
    ∃ first, t.directory? cwd root = some first := by
  induction hWay with
  | start hRoot => exact ⟨_, hRoot⟩
  | enter hWay hName hNode ih => exact ih
  | follow hWay hName hLink hDest hNew ih => exact ih

/- A way has followed no more links than there are directories. -/
theorem Way.length_linked_le
    (hWay : t.Way cwd root names dirs linked) :
    linked.length ≤ t.directoryCount := by
  rcases hWay.exists_first with ⟨first, hFirst⟩
  rcases hWay.nodup_linked hFirst with ⟨hNodup, hSubset⟩
  have hCard :
      (linked ++ [first]).length ≤ t.directories.toFinset.card := by
    rw [← List.toFinset_card_of_nodup hNodup]
    refine Finset.card_le_card fun loc hLoc => ?_
    rw [List.mem_toFinset] at hLoc ⊢
    exact hWay.mem_directories (hSubset hLoc)
  have hRoot : [] ∈ t.directories.toFinset :=
    List.mem_toFinset.mpr List.mem_cons_self
  rw [List.length_append, List.length_singleton] at hCard
  unfold directoryCount
  rw [Finset.card_erase_of_mem hRoot]
  exact Nat.le_sub_one_of_lt hCard

/-
  By induction on the way: below the last link, a way has as
  many names at most as the location that it leads to, and
  above it, a link and a height of the tree for each link.
-/
theorem Way.length_le
    (hWay : t.Way cwd root names dirs linked)
    (hDirs : dirs = loc :: above) :
    names.length ≤
      linked.length * (t.directoryHeight + 1) + loc.length := by
  induction hWay generalizing loc above with
  | start hRoot => exact Nat.zero_le _
  | enter hWay hName hNode ih =>
    cases hDirs
    have hBefore := ih rfl
    rw [List.length_append, List.length_append]
    omega
  | follow hWay hName hLink hDest hNew ih =>
    cases hDirs
    have hBefore := ih rfl
    have hDeep := length_le_directoryHeight hWay.node?_eq_directory
    rw [List.length_append, List.length_singleton, List.length_cons,
      Nat.succ_mul]
    omega

/- There is room for one more name behind every way. -/
theorem Way.length_lt
    (hWay : t.Way cwd root names (loc :: above) linked) :
    names.length < (t.directoryCount + 1) * (t.directoryHeight + 1) := by
  have hDeep := length_le_directoryHeight hWay.node?_eq_directory
  calc names.length
    _ ≤ linked.length * (t.directoryHeight + 1) + loc.length :=
      hWay.length_le rfl
    _ ≤ t.directoryCount * (t.directoryHeight + 1) + loc.length :=
      Nat.add_le_add_right (Nat.mul_le_mul_right _ hWay.length_linked_le) _
    _ < (t.directoryCount + 1) * (t.directoryHeight + 1) := by
      rw [Nat.succ_mul]
      omega

/- Every item is the root itself or an entry behind a way. -/
theorem length_le_of_mem_walk
    {item : WalkItem}
    (hItem : item ∈ t.walk cwd root) :
    ∃ names : List String,
      item.path = names.foldl Path.join root ∧
      names.length ≤
        (t.directoryCount + 1) * (t.directoryHeight + 1) := by
  rcases mem_walk_iff.mp hItem with
    ⟨_, rfl⟩ | ⟨_, _, _, rfl⟩ | ⟨path, loc, above, hMeets, hOwn⟩
  · exact ⟨[], rfl, Nat.zero_le _⟩
  · exact ⟨[], rfl, Nat.zero_le _⟩
  · cases hMeets with
    | entry hWay hName =>
      refine ⟨_, path_of_ownItem hOwn, ?_⟩
      rw [List.length_append, List.length_singleton]
      exact hWay.length_lt

end

end FileTree

------------------------------------------------------------
-- The End
------------------------------------------------------------

/-
  A walk taken entry by entry ends, with the items of the walk.
  The directories that links lead to on one way are all
  different, and neither a way nor a path that is found has
  more names below the root than a height of the directory
  tree and a link for each directory.
-/
theorem walk_ends
    (t : FileTree)
    (cwd : Location)
    (root : Path) :
    (∃ items,
      t.Ends cwd (t.start cwd root).2 items ∧
      t.walk cwd root = (t.start cwd root).1 ++ items) ∧
    (∀ names dirs linked,
      t.Way cwd root names dirs linked →
      linked.Nodup ∧
      names.length ≤
        (t.directoryCount + 1) * (t.directoryHeight + 1)) ∧
    ∀ item ∈ t.walk cwd root,
      ∃ names : List String,
        item.path = names.foldl Path.join root ∧
        names.length ≤
          (t.directoryCount + 1) * (t.directoryHeight + 1) := by
  refine
    ⟨t.ends_walk cwd root, ?_,
      fun item hItem => FileTree.length_le_of_mem_walk hItem⟩
  intro names dirs linked hWay
  rcases hWay.exists_first with ⟨first, hFirst⟩
  cases dirs with
  | nil => nomatch hWay
  | cons loc above =>
    exact
      ⟨(hWay.nodup_linked hFirst).1.of_append_left,
        Nat.le_of_lt hWay.length_lt⟩

------------------------------------------------------------
-- A Directory Entered Twice
------------------------------------------------------------

namespace Returning

/- A directory with a link to the one above it. -/
def tree : FileTree where
  nodes :=
    [ (["a"], .directory),
      (["a", "b"], .directory),
      (["a", "b", "up"], .link "/a") ]

theorem up_mem_names :
    "up" ∈ tree.names ["a", "b"] :=
  FileTree.mem_names_iff.mpr (by decide)

theorem isLinkAt_up :
    tree.IsLinkAt (["a", "b"] ++ ["up"]) :=
  ⟨"/a", rfl⟩

/- What is behind the link, or several of them. -/
theorem advance_up
    (links : Nat)
    (rest : List String) :
    tree.advance true (links + 1) [] ("a" :: "b" :: "up" :: rest) =
      tree.advance true links [] ("a" :: rest) :=
  @FileTree.advance_place_link tree ["a", "b"] ["a"] "up" rest links
    (by decide) rfl (by decide) (by decide)

/-
  The directory is entered again below the link, since it is no
  link itself.
-/
theorem way_twice_through_directory :
    tree.Way [] "/a/b" ["up", "b"] [["a", "b"], ["a"], ["a", "b"]]
      [["a"]] := by
  have hB : "b" ∈ tree.names ["a"] :=
    FileTree.mem_names_iff.mpr (by decide)
  have hStart :
      tree.resolved? [] "/a/b" = some (["a", "b"], .directory) :=
    @FileTree.resolved?_of_isPlain tree [] ["a", "b"] _ (by decide) rfl
      rfl
  have hDest :
      tree.resolved? [] "/a/b/up" = some (["a"], .directory) :=
    @FileTree.resolved?_of_link tree [] ["a", "b"] ["a"] "up" _
      (by decide) rfl (by decide) (by decide) rfl rfl
  have hRoot : tree.Way [] "/a/b" [] [["a", "b"]] [] :=
    .start (FileTree.directory?_eq_some_iff.mpr hStart)
  have hAbove :
      tree.Way [] "/a/b" ["up"] [["a"], ["a", "b"]] [["a"]] :=
    hRoot.follow up_mem_names isLinkAt_up
      (FileTree.directory?_eq_some_iff.mpr hDest) (by decide)
  exact hAbove.enter hB rfl

theorem directory?_up_again :
    tree.directory? [] "/a/b/up/b/up" = some ["a"] := by
  have hA : tree.advance true 38 [] ["a"] = .ok ["a"] :=
    FileTree.advance_plain true 38 (by decide)
      (rfl : tree.node? ["a"] = some .directory) (.inl rfl)
  have hDest :
      tree.resolved? [] "/a/b/up/b/up" = some (["a"], .directory) :=
    @FileTree.resolved?_of_advance tree [] ["a", "b", "up", "b", "up"]
      _ _ (by decide)
      ((advance_up 39 ["b", "up"]).trans ((advance_up 38 []).trans hA))
      rfl
  exact FileTree.directory?_eq_some_iff.mpr hDest

end Returning

/- In the directory that was entered again, the link is refused. -/
open Returning in
theorem walk_ends_where_way_repeats :
    .fault .loop "/a/b/up/b/up" ∈ tree.walk [] "/a/b" ∧
    tree.directoryCount = 2 ∧ tree.directoryHeight = 2 ∧
    ∃ names : List String,
      "/a/b/up/b/up" = names.foldl Path.join "/a/b" ∧
      names.length ≤ (2 + 1) * (2 + 1) := by
  have hLoop :
      .fault .loop "/a/b/up/b/up" ∈ tree.walk [] "/a/b" :=
    FileTree.loop_mem_walk_iff.mpr
      ⟨_, _, ["a"], .entry way_twice_through_directory up_mem_names,
        isLinkAt_up, directory?_up_again, by decide⟩
  have hCount : tree.directoryCount = 2 := by decide
  have hHeight : tree.directoryHeight = 2 := by decide
  have hBound := (walk_ends tree [] "/a/b").2.2 _ hLoop
  rw [hCount, hHeight] at hBound
  exact ⟨hLoop, hCount, hHeight, hBound⟩

end TreeLint
