import Mathlib.Data.List.Induction
import TreeLint.Proofs.FileTree.Stages
import TreeLint.Proofs.FileTree.Ways

/-
  What can be reached by following paths.

  Key definitions include:
    * `FileTree.Reaches`

  Key theorems include:
    * `FileTree.Way.of_prefix`
    * `FileTree.Reaches.findsFile`
    * `FileTree.FindsFile.exists_reaches`
    * `walk_finds_exactly_reachable_files`

  Names below a root reach a file when each front of them can
  be followed to a directory that has the next name, the whole
  can be followed to a file, and no link in between leads back.
  This says nothing of a walk, and of nothing but where paths
  lead.  It agrees with the ways of a walk on each path that is
  short enough to be followed.
-/

------------------------------------------------------------
-- Following Names
------------------------------------------------------------

namespace TreeLint

namespace FileTree

/- Names lead from a root to a file, and no link in them back. -/
structure Reaches
    (t : FileTree)
    (cwd : Location)
    (root : Path)
    (names : List String) : Prop where
  entries :
    ∀ front name rest,
      names = front ++ name :: rest →
      ∃ dir,
        t.directory? cwd (front.foldl Path.join root) = some dir ∧
        name ∈ t.names dir
  forward :
    ∀ front name rest dir,
      names = front ++ name :: rest →
      rest ≠ [] →
      t.directory? cwd (front.foldl Path.join root) = some dir →
      t.IsLinkAt (dir ++ [name]) →
      ∀ above,
        above <+: front →
        t.directory? cwd (above.foldl Path.join root) ≠
          t.directory? cwd ((front ++ [name]).foldl Path.join root)
  file : t.isFile cwd (names.foldl Path.join root) = true

section

variable {t : FileTree} {cwd dir loc : Location}
variable {root path : Path} {names front : List String}
variable {above dirs linked : List Location}

theorem pathFault?_of_resolved
    {found : Location × Node}
    (hFound : t.resolved? cwd path = some found) :
    pathFault? path = none := by
  unfold resolved? locate at hFound
  cases hFault : pathFault? path with
  | none => rfl
  | some error => simp [hFault] at hFound

theorem directory?_of_locate
    (hLocate : t.locate cwd path = .ok dir)
    (hNode : t.node? dir = some .directory) :
    t.directory? cwd path = some dir := by
  rw [directory?_eq_some_iff, resolved?, hLocate]
  simp [hNode]

/- Where names can be followed, so can those in front of them. -/
theorem pathFault?_of_append
    {rest : List String}
    (hRoot : root ≠ "")
    (hNames : Location.IsProper (front ++ rest))
    (hFit : pathFault? ((front ++ rest).foldl Path.join root) = none) :
    pathFault? (front.foldl Path.join root) = none := by
  induction rest using List.reverseRecOn with
  | nil => simpa using hFit
  | append_singleton rest name ih =>
    rw [← List.append_assoc] at hNames hFit
    rcases Location.isProper_append.mp hNames with ⟨hFront, hLast⟩
    rw [List.foldl_concat] at hFit
    have hSome := Path.foldl_join_ne_empty hRoot hFront
    have hName := hLast name (List.mem_singleton_self name)
    exact ih hFront (pathFault?_of_join_name hSome hName hFit)

------------------------------------------------------------
-- From Paths To Ways
------------------------------------------------------------

/- An entry that is no link is what the path to it leads to. -/
theorem locate_concat_of_not_link
    {name : String}
    {node : Node}
    (hNames : t.WellNamed)
    (hDir : t.directory? cwd path = some dir)
    (hName : name ∈ t.names dir)
    (hLink : ¬ t.IsLinkAt (dir ++ [name]))
    (hFit : pathFault? (path.join name) = none)
    (hNode : t.node? (dir ++ [name]) = some node) :
    t.locate cwd (path.join name) = .ok (dir ++ [name]) := by
  rcases locate_of_directory? hDir with ⟨hLocate, hDirectory⟩
  have hOther : node.isLink = false := by
    cases node with
    | link target => exact absurd ⟨target, hNode⟩ hLink
    | directory => rfl
    | file content executable => rfl
    | pipe => rfl
  exact
    locate_join hLocate (isName_of_mem_names hNames hName) hDirectory
      hNode hOther hFit

/-
  By induction on the front: names that lead through
  directories and not back are a way, and each directory on it
  is that of a front.
-/
theorem Reaches.exists_way
    {rest : List String}
    (hNames : t.WellNamed)
    (hReaches : t.Reaches cwd root names)
    (hSplit : names = front ++ rest)
    (hRest : rest ≠ [])
    (hDir : t.directory? cwd (front.foldl Path.join root) = some dir) :
    ∃ above linked,
      t.Way cwd root front (dir :: above) linked ∧
      ∀ loc ∈ dir :: above,
        ∃ short,
          short <+: front ∧
          t.directory? cwd (short.foldl Path.join root) = some loc := by
  induction front using List.reverseRecOn generalizing rest dir with
  | nil =>
    refine ⟨[], [], .start hDir, fun loc hLoc => ?_⟩
    rw [List.mem_singleton.mp hLoc]
    exact ⟨[], List.nil_prefix, hDir⟩
  | append_singleton front name ih =>
    have hBefore : names = front ++ name :: rest := by
      rw [hSplit, List.append_assoc, List.singleton_append]
    rcases hReaches.entries front name rest hBefore with
      ⟨last, hLast, hName⟩
    rcases ih hBefore (List.cons_ne_nil _ _) hLast with
      ⟨above, linked, hWay, hFronts⟩
    have hOn :
        ∀ loc ∈ dir :: last :: above,
          ∃ short,
            short <+: front ++ [name] ∧
            t.directory? cwd (short.foldl Path.join root) =
              some loc := by
      intro loc hLoc
      rcases List.mem_cons.mp hLoc with rfl | hAbove
      · exact ⟨front ++ [name], List.prefix_rfl, hDir⟩
      · rcases hFronts loc hAbove with ⟨short, hShort, hEq⟩
        exact ⟨short, hShort.trans (List.prefix_append _ _), hEq⟩
    by_cases hLink : t.IsLinkAt (last ++ [name])
    · have hNew : dir ∉ last :: above := by
        intro hOld
        rcases hFronts dir hOld with ⟨short, hShort, hEq⟩
        have hForward :=
          hReaches.forward front name rest last hBefore hRest hLast hLink
            short hShort
        exact hForward (hEq.trans hDir.symm)
      exact ⟨_, _, hWay.follow hName hLink hDir hNew, hOn⟩
    · rcases Option.isSome_iff_exists.mp (mem_names_iff.mp hName) with
        ⟨node, hNode⟩
      have hFit :=
        pathFault?_of_resolved (directory?_eq_some_iff.mp hDir)
      rcases locate_of_directory? hDir with ⟨hLocate, hDirectory⟩
      rw [List.foldl_concat] at hFit hLocate
      rw [locate_concat_of_not_link hNames hLast hName hLink hFit hNode]
        at hLocate
      cases hLocate
      exact ⟨_, _, hWay.enter hName hDirectory, hOn⟩

/- What paths reach, a walk finds. -/
theorem Reaches.findsFile
    (hNames : t.WellNamed)
    (hReaches : t.Reaches cwd root names) :
    t.FindsFile cwd root (names.foldl Path.join root) := by
  have hFile := hReaches.file
  rcases List.eq_nil_or_concat names with rfl | ⟨front, name, hEq⟩
  · exact .inl ⟨rfl, hFile⟩
  · rw [List.concat_eq_append] at hEq
    subst hEq
    rcases hReaches.entries front name [] rfl with ⟨dir, hDir, hName⟩
    rcases hReaches.exists_way hNames rfl (List.cons_ne_nil _ _) hDir
      with ⟨above, linked, hWay, _⟩
    refine .inr ⟨_, _, .entry hWay hName, ?_⟩
    by_cases hLink : t.IsLinkAt (dir ++ [name])
    · exact .inr ⟨hLink, hFile⟩
    · rcases Option.isSome_iff_exists.mp (mem_names_iff.mp hName) with
        ⟨node, hNode⟩
      rcases isFile_iff.mp hFile with
        ⟨dest, content, executable, hFound⟩
      have hFit := pathFault?_of_resolved hFound
      rw [List.foldl_concat] at hFit hFound
      rw [resolved?,
        locate_concat_of_not_link hNames hDir hName hLink hFit hNode]
        at hFound
      simp only [hNode, Option.map_some] at hFound
      cases hFound
      exact .inl ⟨content, executable, hNode⟩

------------------------------------------------------------
-- From Ways To Paths
------------------------------------------------------------

/- A front of a way is a way, to a directory on it. -/
theorem Way.of_prefix
    (hWay : t.Way cwd root names dirs linked)
    (hFront : front <+: names) :
    ∃ dir above linked',
      t.Way cwd root front (dir :: above) linked' ∧
      dir :: above <:+ dirs := by
  induction hWay with
  | start hRoot =>
    rw [List.prefix_nil.mp hFront]
    exact ⟨_, _, _, .start hRoot, List.suffix_rfl⟩
  | enter hWay hName hNode ih =>
    rcases List.prefix_concat_iff.mp hFront with rfl | hShort
    · exact ⟨_, _, _, hWay.enter hName hNode, List.suffix_rfl⟩
    · rcases ih hShort with ⟨dir, above, linked', hBefore, hSuffix⟩
      exact
        ⟨dir, above, linked', hBefore,
          hSuffix.trans (List.suffix_cons _ _)⟩
  | follow hWay hName hLink hDest hNew ih =>
    rcases List.prefix_concat_iff.mp hFront with rfl | hShort
    · exact ⟨_, _, _, hWay.follow hName hLink hDest hNew, List.suffix_rfl⟩
    · rcases ih hShort with ⟨dir, above, linked', hBefore, hSuffix⟩
      exact
        ⟨dir, above, linked', hBefore,
          hSuffix.trans (List.suffix_cons _ _)⟩

/- A last link leads to no directory on the way to it. -/
theorem Way.last_step
    {name : String}
    (hWay : t.Way cwd root (front ++ [name]) dirs linked) :
    ∃ dir above linked',
      t.Way cwd root front (dir :: above) linked' ∧
      name ∈ t.names dir ∧
      (t.IsLinkAt (dir ++ [name]) →
        ∃ dest,
          t.directory? cwd ((front ++ [name]).foldl Path.join root) =
            some dest ∧
          dest ∉ dir :: above) := by
  generalize hAll : front ++ [name] = all at hWay
  cases hWay with
  | start hRoot => simp at hAll
  | enter hWay hName hNode =>
    rcases List.append_inj' hAll rfl with ⟨rfl, hLast⟩
    cases hLast
    refine ⟨_, _, _, hWay, hName, ?_⟩
    rintro ⟨target, hTarget⟩
    rw [hNode] at hTarget
    cases hTarget
  | follow hWay hName hLink hDest hNew =>
    rcases List.append_inj' hAll rfl with ⟨rfl, hLast⟩
    cases hLast
    exact ⟨_, _, _, hWay, hName, fun _ => ⟨_, hDest, hNew⟩⟩

theorem Way.directory?_eq_some
    (hNames : t.WellNamed)
    (hWay : t.Way cwd root names (dir :: above) linked)
    (hFit : pathFault? (names.foldl Path.join root) = none) :
    t.directory? cwd (names.foldl Path.join root) = some dir :=
  directory?_of_locate (hWay.locate_eq_ok hNames rfl hFit)
    hWay.node?_eq_directory

/- A name among others is the last of them, or in front of it. -/
theorem split_of_concat_eq
    {rest : List String}
    {name last : String}
    (hSplit : names ++ [last] = front ++ name :: rest) :
    (rest = [] ∧ names = front ∧ last = name) ∨
      front ++ [name] <+: names := by
  rcases List.eq_nil_or_concat rest with rfl | ⟨others, final, hRest⟩
  · rcases List.append_inj' hSplit rfl with ⟨hFront, hLast⟩
    cases hLast
    exact .inl ⟨rfl, hFront, rfl⟩
  · rw [hRest, List.concat_eq_append, ← List.cons_append,
      ← List.append_assoc] at hSplit
    refine .inr ⟨others, ?_⟩
    rw [List.append_assoc, List.singleton_append]
    exact (List.append_inj' hSplit rfl).1.symm

/-
  A way with a file behind it: its fronts are ways, so their
  paths lead to the directories on it, and its links lead to
  none of those.
-/
theorem Way.reaches
    {name : String}
    (hNames : t.WellNamed)
    (hWay : t.Way cwd root names (loc :: above) linked)
    (hName : name ∈ t.names loc)
    (hFile :
      t.isFile cwd ((names ++ [name]).foldl Path.join root) = true) :
    t.Reaches cwd root (names ++ [name]) := by
  rcases isFile_iff.mp hFile with ⟨_, _, _, hFound⟩
  have hProper :
      Location.IsProper (names ++ [name]) :=
    Location.IsProper.concat (hWay.isProper hNames)
      (isName_of_mem_names hNames hName)
  have hFits :
      ∀ short,
        short <+: names →
        pathFault? (short.foldl Path.join root) = none := by
    rintro short ⟨rest, rfl⟩
    rw [List.append_assoc] at hProper hFound
    exact
      pathFault?_of_append hWay.root_ne_empty hProper
        (pathFault?_of_resolved hFound)
  refine ⟨?_, ?_, hFile⟩
  · intro front next rest hSplit
    rcases split_of_concat_eq hSplit with ⟨_, rfl, rfl⟩ | hShort
    · have hFit := hFits names List.prefix_rfl
      exact ⟨loc, hWay.directory?_eq_some hNames hFit, hName⟩
    · rcases hWay.of_prefix hShort with ⟨_, _, _, hNext, _⟩
      rcases hNext.last_step with ⟨dir, _, _, hFront, hIn, _⟩
      have hFit := hFits front ((List.prefix_append _ _).trans hShort)
      exact ⟨dir, hFront.directory?_eq_some hNames hFit, hIn⟩
  · intro front next rest dir hSplit hRest hDir hLink short hShort hSame
    rcases split_of_concat_eq hSplit with ⟨hNone, _, _⟩ | hNext
    · exact hRest hNone
    · rcases hWay.of_prefix hNext with ⟨_, _, _, hNextWay, _⟩
      rcases hNextWay.last_step with
        ⟨last, before, _, hFront, _, hForward⟩
      have hIn := (List.prefix_append front [next]).trans hNext
      have hLast := hFront.directory?_eq_some hNames (hFits front hIn)
      rw [hDir, Option.some.injEq] at hLast
      subst hLast
      rcases hForward hLink with ⟨dest, hDest, hNew⟩
      rcases hFront.of_prefix hShort with
        ⟨old, _, _, hOldWay, hSuffix⟩
      have hOld :=
        hOldWay.directory?_eq_some hNames
          (hFits short (hShort.trans hIn))
      rw [hOld, hDest, Option.some.injEq] at hSame
      subst hSame
      exact hNew (hSuffix.subset List.mem_cons_self)

/- What a walk finds is reached, if the path can be followed. -/
theorem FindsFile.exists_reaches
    (hNames : t.WellNamed)
    (hFile : t.FindsFile cwd root path)
    (hFit : pathFault? path = none) :
    ∃ names,
      path = names.foldl Path.join root ∧
      t.Reaches cwd root names := by
  have hIsFile := hFile.isFile hNames hFit
  rcases hFile with ⟨rfl, _⟩ | ⟨loc, above, hMeets, _⟩
  · exact ⟨[], rfl, by simp, by simp, hIsFile⟩
  · cases hMeets with
    | entry hWay hName =>
      exact ⟨_, rfl, hWay.reaches hNames hName hIsFile⟩

end

end FileTree

------------------------------------------------------------
-- Reachable Files
------------------------------------------------------------

/-
  A walk finds the files that can be reached from its root and
  no others, each of them once.  They are the files that ways
  lead to, and those that names reach; only a path that is too
  long to be followed is found by a way alone.  A walk has a
  fault for a root or a link that leads nowhere and for each
  link that leads back to a directory on the way to it, and
  goes on after it.  What matches is asked for with success
  exactly where there is no fault, and is then what is accepted
  of the files, in the order of the walk.
-/
theorem walk_finds_exactly_reachable_files
    (t : FileTree)
    (cwd : Location)
    (root : Path)
    (hNames : t.WellNamed) :
    (∀ path,
      .file path ∈ t.walk cwd root ↔ t.FindsFile cwd root path) ∧
    (∀ names,
      t.Reaches cwd root names →
      .file (names.foldl Path.join root) ∈ t.walk cwd root) ∧
    (∀ path,
      .file path ∈ t.walk cwd root →
      FileTree.pathFault? path = none →
      ∃ names,
        path = names.foldl Path.join root ∧
        t.Reaches cwd root names) ∧
    ((t.walk cwd root).map fun item => item.path.parts).Nodup ∧
    (∀ path,
      (∃ error, .fault (.unreachable error) path ∈ t.walk cwd root) ↔
        t.FindsBroken cwd root path) ∧
    (∀ path,
      .fault .loop path ∈ t.walk cwd root ↔
        t.FindsLoop cwd root path) ∧
    ∀ accepts files,
      t.matching cwd accepts root = .ok files ↔
        FaultFree (t.walk cwd root) ∧
        files =
          ((t.walk cwd root).filterMap WalkItem.file?).filter
            accepts := by
  refine
    ⟨fun path => FileTree.file_mem_walk_iff, ?_, ?_,
      FileTree.nodup_parts_walk cwd root hNames,
      fun path => FileTree.exists_unreachable_mem_walk_iff,
      fun path => FileTree.loop_mem_walk_iff,
      fun accepts files => collect_eq_ok_iff⟩
  · intro names hReaches
    exact FileTree.file_mem_walk_iff.mpr (hReaches.findsFile hNames)
  · intro path hItem hFit
    have hFound := FileTree.file_mem_walk_iff.mp hItem
    exact hFound.exists_reaches hNames hFit

------------------------------------------------------------
-- A Directory With Three Links
------------------------------------------------------------

namespace Crossing

/-
  A directory with a file, a link to nothing and a link to
  another directory, in which a link leads back.
-/
def tree : FileTree where
  nodes :=
    [ (["w"], .directory),
      (["w", "a.h"], .file [] false),
      (["w", "gone"], .link "/nowhere"),
      (["w", "near"], .link "/v"),
      (["v"], .directory),
      (["v", "x.h"], .file [] false),
      (["v", "back"], .link "/w") ]

theorem way_w :
    tree.Way [] "/w" [] [["w"]] [] := by
  have hDir : tree.resolved? [] "/w" = some (["w"], .directory) :=
    @FileTree.resolved?_of_isPlain tree [] ["w"] _ (by decide) rfl rfl
  exact .start (FileTree.directory?_eq_some_iff.mpr hDir)

theorem way_near :
    tree.Way [] "/w" ["near"] [["v"], ["w"]] [["v"]] := by
  have hName : "near" ∈ tree.names ["w"] :=
    FileTree.mem_names_iff.mpr (by decide)
  have hLink : tree.IsLinkAt (["w"] ++ ["near"]) := ⟨"/v", rfl⟩
  have hDest :
      tree.resolved? [] "/w/near" = some (["v"], .directory) :=
    @FileTree.resolved?_of_link tree [] ["w"] ["v"] "near" _
      (by decide) rfl (by decide) (by decide) rfl rfl
  exact
    way_w.follow hName hLink
      (FileTree.directory?_eq_some_iff.mpr hDest) (by decide)

theorem resolved?_gone :
    tree.resolved? [] "/w/gone" = none := by
  have hFollowed :
      tree.advance true FileTree.linkLimit [] ["w", "gone"] =
        tree.advance true 39 [] ["nowhere"] :=
    @FileTree.advance_place_link tree ["w"] ["nowhere"] "gone" [] 39
      (by decide) rfl (by decide) (by decide)
  have hMissing :
      tree.advance true 39 [] ["nowhere"] = .error .notFound :=
    FileTree.advance_short_missing [] (by decide) rfl rfl (by decide)
  exact
    @FileTree.resolved?_of_advance_error tree [] ["w", "gone"] _
      (by decide) (hFollowed.trans hMissing)

theorem directory?_back :
    tree.directory? [] "/w/near/back" = some ["w"] := by
  have hNear :
      tree.advance true FileTree.linkLimit [] ["w", "near", "back"] =
        tree.advance true 39 [] ["v", "back"] :=
    @FileTree.advance_place_link tree ["w"] ["v"] "near" ["back"] 39
      (by decide) rfl (by decide) (by decide)
  have hBack :
      tree.advance true 39 [] ["v", "back"] =
        tree.advance true 38 [] ["w"] :=
    @FileTree.advance_place_link tree ["v"] ["w"] "back" [] 38
      (by decide) rfl (by decide) (by decide)
  have hW : tree.advance true 38 [] ["w"] = .ok ["w"] :=
    FileTree.advance_plain true 38 (by decide)
      (rfl : tree.node? ["w"] = some .directory) (.inl rfl)
  have hDest :
      tree.resolved? [] "/w/near/back" = some (["w"], .directory) :=
    @FileTree.resolved?_of_advance tree [] ["w", "near", "back"] _ _
      (by decide) (hNear.trans (hBack.trans hW)) rfl
  exact FileTree.directory?_eq_some_iff.mpr hDest

end Crossing

/-
  The file behind the link is found, and the two links that
  lead nowhere and back are the faults, so nothing matches.
-/
open Crossing in
theorem file_found_behind_link :
    tree.WellNamed ∧
    .file "/w/near/x.h" ∈ tree.walk [] "/w" ∧
    (∃ names,
      "/w/near/x.h" = names.foldl Path.join "/w" ∧
      tree.Reaches [] "/w" names) ∧
    (∃ error, .fault (.unreachable error) "/w/gone" ∈ tree.walk [] "/w") ∧
    .fault .loop "/w/near/back" ∈ tree.walk [] "/w" ∧
    ∀ files, tree.matching [] (fun _ => true) "/w" ≠ .ok files := by
  have hNames : tree.WellNamed := by decide
  have hFit : FileTree.IsFit ["w", "near", "x.h"] := by decide
  rcases walk_finds_exactly_reachable_files tree [] "/w" hNames with
    ⟨hFiles, _, hReached, _, hBroken, hLoops, hMatching⟩
  have hFile : .file "/w/near/x.h" ∈ tree.walk [] "/w" := by
    have hName : "x.h" ∈ tree.names ["v"] :=
      FileTree.mem_names_iff.mpr (by decide)
    refine (hFiles _).mpr (.inr ⟨["v", "x.h"], [["v"], ["w"]], ?_, ?_⟩)
    · exact .entry way_near hName
    · exact .inl ⟨[], false, rfl⟩
  have hGone :
      ∃ error,
        .fault (.unreachable error) "/w/gone" ∈ tree.walk [] "/w" := by
    have hName : "gone" ∈ tree.names ["w"] :=
      FileTree.mem_names_iff.mpr (by decide)
    refine (hBroken _).mpr (.inr ⟨["w", "gone"], [["w"]], ?_, ?_, ?_⟩)
    · exact .entry way_w hName
    · exact ⟨"/nowhere", rfl⟩
    · exact resolved?_gone
  have hLoop : .fault .loop "/w/near/back" ∈ tree.walk [] "/w" := by
    have hName : "back" ∈ tree.names ["v"] :=
      FileTree.mem_names_iff.mpr (by decide)
    refine
      (hLoops _).mpr
        ⟨["v", "back"], [["v"], ["w"]], ["w"], ?_, ?_, ?_, by decide⟩
    · exact .entry way_near hName
    · exact ⟨"/w", rfl⟩
    · exact directory?_back
  refine
    ⟨hNames, hFile, hReached _ hFile hFit.pathFault?_eq_none, hGone,
      hLoop, ?_⟩
  intro files hFound
  exact ((hMatching _ _).mp hFound).1 _ _ hLoop

end TreeLint
