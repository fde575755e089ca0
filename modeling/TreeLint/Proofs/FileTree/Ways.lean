import TreeLint.Proofs.FileTree.Branches

/-
  What a walk finds.

  Key definitions include:
    * `FileTree.Way`
    * `FileTree.Meets`
    * `FileTree.FindsFile`
    * `FileTree.FindsBroken`
    * `FileTree.FindsLoop`

  Key theorems include:
    * `FileTree.Way.mem_walk`
    * `FileTree.meets_of_mem_visit`
    * `FileTree.mem_walk_iff`
    * `FileTree.file_mem_walk_iff`
    * `FileTree.exists_unreachable_mem_walk_iff`
    * `FileTree.loop_mem_walk_iff`

  A way leads from a root down through directories, and links
  to directories are followed unless they lead back to one on
  the way.  A walk meets the entries of all directories that a
  way leads to.  It finds each file among them, and a fault
  for each link that leads nowhere or back.
-/

------------------------------------------------------------
-- Ways
------------------------------------------------------------

namespace TreeLint

namespace FileTree

/-
  A way from a root: the names on it, the directories that it
  passes, the last one first, and those among them to which a
  link has led.
-/
inductive Way
    (t : FileTree)
    (cwd : Location)
    (root : Path) :
    List String → List Location → List Location → Prop where
  | start
      {dir : Location}
      (hRoot : t.directory? cwd root = some dir) :
      Way t cwd root [] [dir] []
  | enter
      {names : List String}
      {dir : Location}
      {above linked : List Location}
      {name : String}
      (hWay : Way t cwd root names (dir :: above) linked)
      (hName : name ∈ t.names dir)
      (hNode : t.node? (dir ++ [name]) = some .directory) :
      Way t cwd root (names ++ [name])
        ((dir ++ [name]) :: dir :: above) linked
  | follow
      {names : List String}
      {dir dest : Location}
      {above linked : List Location}
      {name : String}
      (hWay : Way t cwd root names (dir :: above) linked)
      (hName : name ∈ t.names dir)
      (hLink : t.IsLinkAt (dir ++ [name]))
      (hDest :
        t.directory? cwd ((names ++ [name]).foldl Path.join root) =
          some dest)
      (hNew : dest ∉ dir :: above) :
      Way t cwd root (names ++ [name])
        (dest :: dir :: above) (dest :: linked)

/-
  A walk meets each entry of each directory that a way leads
  to: its path, its location and the directories on the way.
-/
inductive Meets
    (t : FileTree)
    (cwd : Location)
    (root : Path) :
    Path → Location → List Location → Prop where
  | entry
      {names : List String}
      {dir : Location}
      {above linked : List Location}
      {name : String}
      (hWay : t.Way cwd root names (dir :: above) linked)
      (hName : name ∈ t.names dir) :
      Meets t cwd root ((names ++ [name]).foldl Path.join root)
        (dir ++ [name]) (dir :: above)

/- A regular file is met, or a link that leads to one. -/
def FindsFile
    (t : FileTree)
    (cwd : Location)
    (root path : Path) : Prop :=
  (path = root ∧ t.isFile cwd root = true) ∨
  ∃ loc above,
    t.Meets cwd root path loc above ∧
    ((∃ content executable,
        t.node? loc = some (.file content executable)) ∨
      (t.IsLinkAt loc ∧ t.isFile cwd path = true))

/- The root leads nowhere, or a link is met that does. -/
def FindsBroken
    (t : FileTree)
    (cwd : Location)
    (root path : Path) : Prop :=
  (path = root ∧ t.resolved? cwd root = none) ∨
  ∃ loc above,
    t.Meets cwd root path loc above ∧
    t.IsLinkAt loc ∧
    t.resolved? cwd path = none

/- A link is met that leads back to a directory on the way. -/
def FindsLoop
    (t : FileTree)
    (cwd : Location)
    (root path : Path) : Prop :=
  ∃ loc above dest,
    t.Meets cwd root path loc above ∧
    t.IsLinkAt loc ∧
    t.directory? cwd path = some dest ∧
    dest ∈ above

section

variable {t : FileTree} {cwd loc dest : Location}
variable {above : List Location} {path root : Path}
variable {item : WalkItem}

------------------------------------------------------------
-- Steps Of A Way
------------------------------------------------------------

theorem entered?_eq_some_iff :
    t.entered? cwd above path loc = some dest ↔
      (t.node? loc = some .directory ∧ dest = loc) ∨
      (t.IsLinkAt loc ∧
        t.directory? cwd path = some dest ∧ dest ∉ above) := by
  rw [← @sight_eq_directory_iff t cwd loc path, ← and_assoc,
    ← sight_eq_linkedDirectory_iff]
  unfold entered?
  cases t.sight cwd path loc with
  | file => simp
  | directory => simp [eq_comm]
  | other => simp
  | broken error => simp
  | linkedDirectory other =>
    by_cases hOld : other ∈ above
    · simp only [List.contains_iff_mem, hOld, if_true, reduceCtorEq,
        false_and, false_or, Sight.linkedDirectory.injEq, false_iff]
      rintro ⟨rfl, hNew⟩
      exact hNew hOld
    · simp only [List.contains_iff_mem, hOld, if_false,
        Option.some.injEq, reduceCtorEq, false_and, false_or,
        Sight.linkedDirectory.injEq]
      constructor
      · rintro rfl
        exact ⟨rfl, hOld⟩
      · exact fun ⟨hSame, _⟩ => hSame

theorem ownItem?_eq_file_iff
    {file : Path} :
    t.ownItem? cwd above path loc = some (.file file) ↔
      t.sight cwd path loc = .file ∧ file = path := by
  unfold ownItem?
  cases t.sight cwd path loc with
  | file => simp [eq_comm]
  | directory => simp
  | other => simp
  | broken error => simp
  | linkedDirectory dest => by_cases hOld : dest ∈ above <;> simp [hOld]

theorem ownItem?_eq_unreachable_iff
    {error : PathError}
    {at' : Path} :
    t.ownItem? cwd above path loc =
        some (.fault (.unreachable error) at') ↔
      t.sight cwd path loc = .broken error ∧ at' = path := by
  unfold ownItem?
  cases t.sight cwd path loc with
  | file => simp
  | directory => simp
  | other => simp
  | broken other => simp [eq_comm]
  | linkedDirectory dest => by_cases hOld : dest ∈ above <;> simp [hOld]

theorem ownItem?_eq_loop_iff
    {at' : Path} :
    t.ownItem? cwd above path loc = some (.fault .loop at') ↔
      ∃ dest,
        t.sight cwd path loc = .linkedDirectory dest ∧
        dest ∈ above ∧ at' = path := by
  unfold ownItem?
  cases t.sight cwd path loc with
  | file => simp
  | directory => simp
  | other => simp
  | broken error => simp
  | linkedDirectory dest =>
    by_cases hOld : dest ∈ above <;> simp [hOld, eq_comm]

------------------------------------------------------------
-- Entries That Are Met
------------------------------------------------------------

/- A way goes on wherever a walk enters a directory. -/
theorem Way.exists_of_entered
    {names : List String}
    {dir : Location}
    {linked : List Location}
    {name : String}
    (hWay : t.Way cwd root names (dir :: above) linked)
    (hName : name ∈ t.names dir)
    (hEntered :
      t.entered? cwd (dir :: above)
          ((names ++ [name]).foldl Path.join root) (dir ++ [name]) =
        some dest) :
    ∃ linked',
      t.Way cwd root (names ++ [name]) (dest :: dir :: above)
        linked' := by
  rcases entered?_eq_some_iff.mp hEntered with
    ⟨hNode, rfl⟩ | ⟨hLink, hDest, hNew⟩
  · exact ⟨linked, hWay.enter hName hNode⟩
  · exact ⟨dest :: linked, hWay.follow hName hLink hDest hNew⟩

/-
  By induction on the way: with each step, what is visited is
  a branch of what was visited before.
-/
theorem Way.mem_walk
    {names : List String}
    {dirs linked : List Location}
    (hWay : t.Way cwd root names dirs linked)
    (hDirs : dirs = loc :: above)
    (hItem :
      item ∈ t.visit cwd above (names.foldl Path.join root) loc) :
    item ∈ t.walk cwd root := by
  have hBelow :
      ∀ {names : List String} {name : String} {dir dest : Location}
        {above : List Location},
        name ∈ t.names dir →
        t.entered? cwd (dir :: above)
            ((names ++ [name]).foldl Path.join root) (dir ++ [name]) =
          some dest →
        item ∈
          t.visit cwd (dir :: above)
            ((names ++ [name]).foldl Path.join root) dest →
        item ∈ t.visit cwd above (names.foldl Path.join root) dir := by
    intro names name dir dest above hName hEntered hIn
    rw [List.foldl_concat] at hEntered hIn
    exact
      mem_visit_iff.mpr
        ⟨name, hName,
          mem_branch_iff.mpr (.inr ⟨dest, hEntered, hIn⟩)⟩
  induction hWay generalizing loc above with
  | start hRoot =>
    cases hDirs
    rw [walk_of_directory hRoot]
    exact hItem
  | enter hWay hName hNode ih =>
    cases hDirs
    refine ih rfl (hBelow hName ?_ hItem)
    exact entered?_eq_some_iff.mpr (.inl ⟨hNode, rfl⟩)
  | follow hWay hName hLink hDest hNew ih =>
    cases hDirs
    refine ih rfl (hBelow hName ?_ hItem)
    exact entered?_eq_some_iff.mpr (.inr ⟨hLink, hDest, hNew⟩)

/-
  By induction on the visit: its items are entries of the
  directory, or come from a directory to which the way goes on.
-/
theorem meets_of_mem_visit
    (above : List Location)
    (path : Path)
    (loc : Location)
    {names : List String}
    {linked : List Location}
    (hWay : t.Way cwd root names (loc :: above) linked)
    (hPath : path = names.foldl Path.join root)
    (hItem : item ∈ t.visit cwd above path loc) :
    ∃ path loc above,
      t.Meets cwd root path loc above ∧
      t.ownItem? cwd above path loc = some item := by
  induction above, path, loc using visit_induction t cwd
    generalizing names linked with
  | hStep above path loc ih =>
    rcases mem_visit_iff.mp hItem with ⟨name, hName, hBranch⟩
    have hJoin :
        path.join name = (names ++ [name]).foldl Path.join root := by
      rw [List.foldl_concat, hPath]
    rcases mem_branch_iff.mp hBranch with
      hOwn | ⟨dest, hEntered, hVisit⟩
    · rw [hJoin] at hOwn
      exact ⟨_, _, _, .entry hWay hName, hOwn⟩
    · have hOn := hEntered
      rw [hJoin] at hOn
      rcases hWay.exists_of_entered hName hOn with ⟨linked', hNext⟩
      exact ih name dest hEntered hNext hJoin hVisit

theorem mem_walk_of_meets
    (hMeets : t.Meets cwd root path loc above)
    (hOwn : t.ownItem? cwd above path loc = some item) :
    item ∈ t.walk cwd root := by
  cases hMeets with
  | entry hWay hName =>
    refine hWay.mem_walk rfl (mem_visit_iff.mpr ⟨_, hName, ?_⟩)
    rw [List.foldl_concat] at hOwn
    exact mem_branch_iff.mpr (.inl hOwn)

/- The items of a walk are the root itself, or entries that are met. -/
theorem mem_walk_iff :
    item ∈ t.walk cwd root ↔
      (t.isFile cwd root = true ∧ item = .file root) ∨
      (t.resolved? cwd root = none ∧
        ∃ error,
          t.walk cwd root = [.fault (.unreachable error) root] ∧
          item = .fault (.unreachable error) root) ∨
      ∃ path loc above,
        t.Meets cwd root path loc above ∧
        t.ownItem? cwd above path loc = some item := by
  constructor
  · intro hItem
    rcases walk_cases t cwd root with
      ⟨hRoot, error, hWalk⟩ | ⟨dest, hRoot, hWalk⟩ |
        ⟨_, _, _, hRoot, hWalk⟩ | ⟨_, _, _, _, _, hWalk⟩
    · rw [hWalk, List.mem_singleton] at hItem
      exact .inr (.inl ⟨hRoot, error, hWalk, hItem⟩)
    · rw [hWalk] at hItem
      have hStart := Way.start (directory?_eq_some_iff.mpr hRoot)
      exact
        .inr (.inr (meets_of_mem_visit [] root dest hStart rfl hItem))
    · rw [hWalk, List.mem_singleton] at hItem
      exact .inl ⟨isFile_iff.mpr ⟨_, _, _, hRoot⟩, hItem⟩
    · rw [hWalk] at hItem
      cases hItem
  · rintro (⟨hFile, rfl⟩ | ⟨_, error, hWalk, rfl⟩ |
      ⟨path, loc, above, hMeets, hOwn⟩)
    · simp [walk_of_isFile hFile]
    · simp [hWalk]
    · exact mem_walk_of_meets hMeets hOwn

/- What is met is there, if only as a link. -/
theorem Meets.node?_ne_none
    (hMeets : t.Meets cwd root path loc above) :
    t.node? loc ≠ none := by
  cases hMeets with
  | entry hWay hName =>
    exact Option.isSome_iff_ne_none.mp (mem_names_iff.mp hName)

theorem file_mem_walk_iff :
    .file path ∈ t.walk cwd root ↔ t.FindsFile cwd root path := by
  rw [mem_walk_iff]
  constructor
  · rintro (⟨hFile, hItem⟩ | ⟨_, _, _, hItem⟩ |
      ⟨at', loc, above, hMeets, hOwn⟩)
    · cases hItem
      exact .inl ⟨rfl, hFile⟩
    · cases hItem
    · rcases ownItem?_eq_file_iff.mp hOwn with ⟨hSight, rfl⟩
      exact .inr ⟨loc, above, hMeets, sight_eq_file_iff.mp hSight⟩
  · rintro (⟨rfl, hFile⟩ | ⟨loc, above, hMeets, hFile⟩)
    · exact .inl ⟨hFile, rfl⟩
    · have hSight := sight_eq_file_iff.mpr hFile
      exact
        .inr (.inr
          ⟨path, loc, above, hMeets,
            ownItem?_eq_file_iff.mpr ⟨hSight, rfl⟩⟩)

theorem exists_unreachable_mem_walk_iff :
    (∃ error, .fault (.unreachable error) path ∈ t.walk cwd root) ↔
      t.FindsBroken cwd root path := by
  constructor
  · rintro ⟨error, hItem⟩
    rcases mem_walk_iff.mp hItem with
      ⟨_, hEq⟩ | ⟨hNone, _, _, hEq⟩ | ⟨at', loc, above, hMeets, hOwn⟩
    · cases hEq
    · cases hEq
      exact .inl ⟨rfl, hNone⟩
    · rcases ownItem?_eq_unreachable_iff.mp hOwn with ⟨hSight, rfl⟩
      rcases exists_sight_eq_broken_iff.mp ⟨error, hSight⟩ with
        hMissing | hBroken
      · exact absurd hMissing hMeets.node?_ne_none
      · exact .inr ⟨loc, above, hMeets, hBroken⟩
  · rintro (⟨rfl, hNone⟩ | ⟨loc, above, hMeets, hBroken⟩)
    · rcases walk_of_unresolved hNone with ⟨error, hWalk⟩
      exact ⟨error, by simp [hWalk]⟩
    · rcases exists_sight_eq_broken_iff.mpr (.inr hBroken) with
        ⟨error, hSight⟩
      exact
        ⟨error,
          mem_walk_of_meets hMeets
            (ownItem?_eq_unreachable_iff.mpr ⟨hSight, rfl⟩)⟩

theorem loop_mem_walk_iff :
    .fault .loop path ∈ t.walk cwd root ↔
      t.FindsLoop cwd root path := by
  rw [mem_walk_iff]
  constructor
  · rintro (⟨_, hItem⟩ | ⟨_, _, _, hItem⟩ |
      ⟨at', loc, above, hMeets, hOwn⟩)
    · cases hItem
    · cases hItem
    · rcases ownItem?_eq_loop_iff.mp hOwn with
        ⟨dest, hSight, hOld, rfl⟩
      rcases sight_eq_linkedDirectory_iff.mp hSight with ⟨hLink, hDest⟩
      exact ⟨loc, above, dest, hMeets, hLink, hDest, hOld⟩
  · rintro ⟨loc, above, dest, hMeets, hLink, hDest, hOld⟩
    have hSight := sight_eq_linkedDirectory_iff.mpr ⟨hLink, hDest⟩
    exact
      .inr (.inr
        ⟨path, loc, above, hMeets,
          ownItem?_eq_loop_iff.mpr ⟨dest, hSight, hOld, rfl⟩⟩)

------------------------------------------------------------
-- Paths Of Ways
------------------------------------------------------------

theorem locate_of_directory?
    (hDest : t.directory? cwd path = some dest) :
    t.locate cwd path = .ok dest ∧ t.node? dest = some .directory := by
  rw [directory?_eq_some_iff] at hDest
  unfold resolved? at hDest
  split at hDest
  · cases hDest
  · next other hLocate =>
    rw [Option.map_eq_some_iff] at hDest
    rcases hDest with ⟨node, hNode, hEq⟩
    cases hEq
    exact ⟨hLocate, hNode⟩

section

variable {names : List String} {dirs linked : List Location}

theorem Way.node?_eq_directory
    (hWay : t.Way cwd root names (loc :: above) linked) :
    t.node? loc = some .directory := by
  cases hWay with
  | start hRoot => exact (locate_of_directory? hRoot).2
  | enter hWay hName hNode => exact hNode
  | follow hWay hName hLink hDest hNew =>
    exact (locate_of_directory? hDest).2

theorem Way.isProper
    (hNames : t.WellNamed)
    (hWay : t.Way cwd root names dirs linked) :
    Location.IsProper names := by
  induction hWay with
  | start hRoot => simp [Location.IsProper]
  | enter hWay hName hNode ih =>
    exact Location.IsProper.concat ih (isName_of_mem_names hNames hName)
  | follow hWay hName hLink hDest hNew ih =>
    exact Location.IsProper.concat ih (isName_of_mem_names hNames hName)

theorem Way.root_ne_empty
    (hWay : t.Way cwd root names dirs linked) :
    root ≠ "" := by
  induction hWay with
  | start hRoot =>
    exact ne_empty_of_resolved (directory?_eq_some_iff.mp hRoot)
  | enter hWay hName hNode ih => exact ih
  | follow hWay hName hLink hDest hNew ih => exact ih

/-
  By induction on the way: a path that can be followed leads
  to the directory that the way leads to.
-/
theorem Way.locate_eq_ok
    (hNames : t.WellNamed)
    (hWay : t.Way cwd root names dirs linked)
    (hDirs : dirs = loc :: above)
    (hFit : pathFault? (names.foldl Path.join root) = none) :
    t.locate cwd (names.foldl Path.join root) = .ok loc := by
  induction hWay generalizing loc above with
  | start hRoot =>
    cases hDirs
    exact (locate_of_directory? hRoot).1
  | enter hWay hName hNode ih =>
    cases hDirs
    have hProper := isName_of_mem_names hNames hName
    have hSome :=
      Path.foldl_join_ne_empty hWay.root_ne_empty (hWay.isProper hNames)
    rw [List.foldl_concat] at hFit ⊢
    have hBefore := ih rfl (pathFault?_of_join_name hSome hProper hFit)
    exact
      locate_join hBefore hProper hWay.node?_eq_directory hNode rfl hFit
  | follow hWay hName hLink hDest hNew ih =>
    cases hDirs
    exact (locate_of_directory? hDest).1

/- A path to an entry that is no link leads to this entry. -/
theorem Meets.locate_eq_ok
    {node : Node}
    (hNames : t.WellNamed)
    (hMeets : t.Meets cwd root path loc above)
    (hNode : t.node? loc = some node)
    (hLink : node.isLink = false)
    (hFit : pathFault? path = none) :
    t.locate cwd path = .ok loc := by
  cases hMeets with
  | entry hWay hName =>
    have hProper := isName_of_mem_names hNames hName
    have hSome :=
      Path.foldl_join_ne_empty hWay.root_ne_empty (hWay.isProper hNames)
    rw [List.foldl_concat] at hFit ⊢
    have hBefore :=
      hWay.locate_eq_ok hNames rfl
        (pathFault?_of_join_name hSome hProper hFit)
    exact
      locate_join hBefore hProper hWay.node?_eq_directory hNode hLink
        hFit

/- A file is found under its path, if that can be followed. -/
theorem FindsFile.isFile
    (hNames : t.WellNamed)
    (hFile : t.FindsFile cwd root path)
    (hFit : pathFault? path = none) :
    t.isFile cwd path = true := by
  rcases hFile with
    ⟨rfl, hFile⟩ |
      ⟨loc, above, hMeets, ⟨content, executable, hNode⟩ | ⟨_, hFile⟩⟩
  · exact hFile
  · have hLocate := hMeets.locate_eq_ok hNames hNode rfl hFit
    refine isFile_iff.mpr ⟨loc, content, executable, ?_⟩
    rw [resolved?, hLocate]
    simp [hNode]
  · exact hFile

end

end

end FileTree

end TreeLint
