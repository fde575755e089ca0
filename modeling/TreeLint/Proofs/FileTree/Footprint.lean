import TreeLint.Proofs.FileTree.Located

/-
  What following a path looks at.

  Key definitions include:
    * `FileTree.lookedAt`
    * `FileTree.footprint`

  Key theorems include:
    * `FileTree.advance_congr`
    * `FileTree.mem_lookedAt_of_advance`
    * `FileTree.resolved?_congr`
    * `FileTree.footprint_of_name`

  Following a path asks for the nodes at some locations, one
  after the other, and for nothing else.  A tree that holds
  the same nodes there leads the path to the same end, however
  different it is elsewhere.
-/

------------------------------------------------------------
-- Locations On The Way
------------------------------------------------------------

namespace TreeLint

namespace FileTree

/-
  The locations whose nodes are asked for on the way along
  segments, the end of the way included.
-/
def lookedAt
    (t : FileTree)
    (links : Nat)
    (loc : Location) :
    List String → List Location
  | [] => [loc]
  | segment :: rest =>
    match t.node? loc with
    | some .directory =>
      if Path.isIdle segment then
        t.lookedAt links loc rest
      else if segment == Path.parent then
        loc :: t.lookedAt links loc.dropLast rest
      else
        match t.node? (loc ++ [segment]) with
        | none => [loc, loc ++ [segment]]
        | some (.link target) =>
          match links with
          | 0 => [loc, loc ++ [segment]]
          | links + 1 =>
            loc :: (loc ++ [segment]) ::
              t.lookedAt links
                (if target.isAbsolute then [] else loc)
                (target.segments ++ rest)
        | some _ => loc :: t.lookedAt links (loc ++ [segment]) rest
    | _ => [loc]
termination_by segments => (links, segments.length)

/- The locations that a path is followed through. -/
def footprint (t : FileTree) (cwd : Location) (p : Path) : List Location :=
  t.lookedAt linkLimit (origin cwd p) p.segments

------------------------------------------------------------
-- The Same Nodes On The Way
------------------------------------------------------------

section

variable {t other : FileTree}
variable {links : Nat} {loc : Location}

/- A way starts where it starts. -/
theorem mem_lookedAt_self
    (segments : List String) :
    loc ∈ t.lookedAt links loc segments := by
  fun_induction t.lookedAt links loc segments with
  | case2 links loc segment rest hDir hIdle ih => exact ih
  | _ => exact List.mem_cons_self

/-
  By induction on the way: each step asks for nodes that are
  the same in both trees, so it goes to the same place.
-/
theorem advance_congr
    {segments : List String}
    (hSame :
      ∀ x ∈ t.lookedAt links loc segments,
        other.node? x = t.node? x) :
    other.advance true links loc segments =
      t.advance true links loc segments := by
  have hHere : other.node? loc = t.node? loc :=
    hSame loc (mem_lookedAt_self segments)
  fun_induction t.lookedAt links loc segments with
  | case1 links loc => rw [advance, advance]
  | case2 links loc segment rest hDir hIdle ih =>
    rw [advance, advance, hHere, hDir]
    simpa [hIdle] using ih hSame hHere
  | case3 links loc segment rest hDir hIdle hParent ih =>
    have hBehind := (List.forall_mem_cons.mp hSame).2
    have hAbove := hBehind loc.dropLast (mem_lookedAt_self rest)
    rw [advance, advance, hHere, hDir]
    simpa [hIdle, hParent] using ih hBehind hAbove
  | case4 links loc segment rest hDir hIdle hParent hNode =>
    have hNext := hSame (loc ++ [segment]) (by simp)
    rw [advance, advance, hHere, hDir]
    simp [hIdle, hParent, hNext, hNode]
  | case5 loc segment rest hDir hIdle hParent target hLink =>
    have hNext := hSame (loc ++ [segment]) (by simp)
    rw [advance, advance, hHere, hDir]
    simp [hIdle, hParent, hNext, hLink]
  | case6 loc segment rest hDir hIdle hParent target hLink links ih =>
    have hNext := hSame (loc ++ [segment]) (by simp)
    have hBehind :=
      (List.forall_mem_cons.mp (List.forall_mem_cons.mp hSame).2).2
    simp only [dite_eq_ite] at ih
    have hGo := ih hBehind (hBehind _ (mem_lookedAt_self _))
    rw [advance, advance, hHere, hDir]
    simp [hIdle, hParent, hNext, hLink, hGo]
  | case7 links loc segment rest hDir hIdle hParent node hOther hNode ih =>
    have hBehind := (List.forall_mem_cons.mp hSame).2
    have hNext := hBehind (loc ++ [segment]) (mem_lookedAt_self rest)
    have hGo := ih hBehind hNext
    rw [advance, advance, hHere, hDir]
    simp [hIdle, hParent, hNext, hNode, hGo]
  | case8 links loc segment rest hOther =>
    rw [advance, advance, hHere]
    cases hNode : t.node? loc with
    | none => rfl
    | some node =>
      cases node with
      | directory => exact absurd hNode hOther
      | file content executable => rfl
      | link target => rfl
      | pipe => rfl

/- By induction on the way: where it ends is looked at last. -/
theorem mem_lookedAt_of_advance
    {segments : List String}
    {dest : Location}
    (hDest : t.advance true links loc segments = .ok dest) :
    dest ∈ t.lookedAt links loc segments := by
  fun_induction t.lookedAt links loc segments with
  | case1 links loc =>
    rw [advance] at hDest
    exact List.mem_singleton.mpr (Except.ok.inj hDest).symm
  | case2 links loc segment rest hDir hIdle ih =>
    rw [advance, hDir] at hDest
    exact ih (by simpa [hIdle] using hDest)
  | case3 links loc segment rest hDir hIdle hParent ih =>
    rw [advance, hDir] at hDest
    exact List.mem_cons_of_mem _ (ih (by simpa [hIdle, hParent] using hDest))
  | case4 links loc segment rest hDir hIdle hParent hNode =>
    rw [advance, hDir] at hDest
    simp only [hIdle, hParent, Bool.false_eq_true, if_false,
      hNode] at hDest
    split at hDest <;> cases hDest
  | case5 loc segment rest hDir hIdle hParent target hLink =>
    rw [advance, hDir] at hDest
    simp only [hIdle, hParent, Bool.false_eq_true, if_false, hLink,
      Bool.not_true, Bool.and_false] at hDest
    split at hDest <;> cases hDest
  | case6 loc segment rest hDir hIdle hParent target hLink links ih =>
    rw [advance, hDir] at hDest
    simp only [hIdle, hParent, Bool.false_eq_true, if_false, hLink,
      Bool.not_true, Bool.and_false] at hDest
    split at hDest
    · cases hDest
    · exact List.mem_cons_of_mem _ (List.mem_cons_of_mem _ (ih hDest))
  | case7 links loc segment rest hDir hIdle hParent node hOther hNode ih =>
    rw [advance, hDir] at hDest
    exact
      List.mem_cons_of_mem _
        (ih (by simpa [hIdle, hParent, hNode] using hDest))
  | case8 links loc segment rest hOther =>
    rw [advance] at hDest
    cases hNode : t.node? loc with
    | none => rw [hNode] at hDest; cases hDest
    | some node =>
      rw [hNode] at hDest
      cases node with
      | directory => exact absurd hNode hOther
      | file content executable => cases hDest
      | link target => cases hDest
      | pipe => cases hDest

/- A path leads to the same node where its footprint is the same. -/
theorem resolved?_congr
    {cwd : Location}
    {p : Path}
    (hSame : ∀ x ∈ t.footprint cwd p, other.node? x = t.node? x) :
    other.resolved? cwd p = t.resolved? cwd p := by
  have hLocate : other.locate cwd p = t.locate cwd p := by
    unfold locate
    split
    · rfl
    · exact advance_congr hSame
  unfold resolved?
  rw [hLocate]
  cases hDest : t.locate cwd p with
  | error error => rfl
  | ok dest =>
    have hLast : dest ∈ t.footprint cwd p := by
      unfold locate at hDest
      split at hDest
      · cases hDest
      · exact mem_lookedAt_of_advance hDest
    simp only [hSame dest hLast]

/- Beside the directory itself, only the named entry is looked at. -/
theorem footprint_of_name
    {cwd : Location}
    {name : String}
    {node : Node}
    (hName : Path.IsName name)
    (hDirectory : t.node? cwd = some .directory)
    (hNode : t.node? (cwd ++ [name]) = some node)
    (hLink : node.isLink = false) :
    t.footprint cwd name = [cwd, cwd ++ [name]] := by
  rw [footprint, hName.segments_eq, origin, hName.isAbsolute_eq_false]
  simp only [Bool.false_eq_true, if_false]
  rw [lookedAt, hDirectory]
  simp only [hName.1, hName.beq_parent, Bool.false_eq_true, if_false, hNode]
  cases node with
  | link target => cases hLink
  | directory => simp only [lookedAt]
  | file content executable => simp only [lookedAt]
  | pipe => simp only [lookedAt]

end

end FileTree

end TreeLint
