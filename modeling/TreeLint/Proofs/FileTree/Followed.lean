import TreeLint.Proofs.FileTree.Grounded
import TreeLint.Proofs.Path.Joined

/-
  Following a path name by name.

  Key definitions include:
    * `FileTree.IsLinkAt`

  Key theorems include:
    * `FileTree.advance_append`
    * `FileTree.resolved?_of_locateEntry`
    * `FileTree.locate_join`
    * `FileTree.advance_place_link`
    * `FileTree.resolved?_of_link`

  Following a path of several pieces is following one after
  the other, with the links that are left.  So what an entry
  of a directory is can be asked in two ways: at its location
  below that of the directory, or by following its path from
  the beginning.  The answers are the same where the path can
  be followed at all.
-/

------------------------------------------------------------
-- Entries And Where They Lead
------------------------------------------------------------

namespace TreeLint

namespace FileTree

variable {t : FileTree} {cwd loc dest : Location} {p : Path}

/- Whether there is a link at a location. -/
def IsLinkAt (t : FileTree) (loc : Location) : Prop :=
  ∃ target, t.node? loc = some (.link target)

/-
  By induction on the way: a reading that stops at a link in
  the end differs from one that follows it in nothing else.
-/
theorem advance_of_not_link
    {links : Nat}
    {segments : List String}
    (hFree :
      ∀ dest,
        t.advance false links loc segments = .ok dest →
        ¬ t.IsLinkAt dest) :
    t.advance true links loc segments =
      t.advance false links loc segments := by
  fun_induction t.advance false links loc segments with
  | case1 links loc => rw [advance]
  | case2 links loc segment rest hNode => rw [advance, hNode]
  | case3 links loc segment rest hDir hIdle ih =>
    rw [advance, hDir]
    simpa [hIdle] using ih hFree
  | case4 links loc segment rest hDir hIdle hParent ih =>
    rw [advance, hDir]
    simpa [hIdle, hParent] using ih hFree
  | case5 links loc segment rest hDir hIdle hParent hNode hLong =>
    rw [advance, hDir]
    simp [hIdle, hParent, hNode, hLong]
  | case6 links loc segment rest hDir hIdle hParent hNode hShort =>
    rw [advance, hDir]
    simp [hIdle, hParent, hNode, hShort]
  | case7 links loc segment rest hDir hIdle hParent target hLink =>
    exact absurd ⟨target, hLink⟩ (hFree _ rfl)
  | case8 links loc segment rest hDir hIdle hParent target hLink hOn
      hEmpty =>
    rw [advance, hDir]
    simp [hIdle, hParent, hLink, hEmpty]
  | case9 loc segment rest hDir hIdle hParent target hLink hOn hSome =>
    rw [advance, hDir]
    simp [hIdle, hParent, hLink, hSome]
  | case10 loc segment rest hDir hIdle hParent target hLink hOn hSome
      links ih =>
    rw [advance, hDir]
    simpa [hIdle, hParent, hLink, hSome] using ih hFree
  | case11 links loc segment rest hDir hIdle hParent node hOther hNode
      ih =>
    rw [advance, hDir]
    simpa [hIdle, hParent, hNode] using ih hFree
  | case12 links loc segment rest node hOther hNode =>
    rw [advance, hNode]
    cases node with
    | directory => exact absurd rfl hOther
    | file content executable => rfl
    | link target => rfl
    | pipe => rfl

/-
  By induction on the way: what fails fails whatever comes
  behind it, and from where a piece ends, the next one goes on
  with the links that are left.
-/
theorem advance_append
    {links : Nat}
    {segments : List String}
    (rest : List String) :
    (∃ error,
      t.advance true links loc segments = .error error ∧
      t.advance true links loc (segments ++ rest) = .error error) ∨
    ∃ dest left,
      t.advance true links loc segments = .ok dest ∧
      t.advance true links loc (segments ++ rest) =
        t.advance true left dest rest := by
  fun_induction t.advance true links loc segments with
  | case1 links loc => exact .inr ⟨loc, links, rfl, rfl⟩
  | case2 links loc segment behind hNode =>
    refine .inl ⟨_, rfl, ?_⟩
    rw [List.cons_append, advance, hNode]
  | case3 links loc segment behind hDir hIdle ih =>
    rw [List.cons_append, advance, hDir]
    simpa [hIdle] using ih
  | case4 links loc segment behind hDir hIdle hParent ih =>
    rw [List.cons_append, advance, hDir]
    simpa [hIdle, hParent] using ih
  | case5 links loc segment behind hDir hIdle hParent hNode hLong =>
    refine .inl ⟨_, rfl, ?_⟩
    rw [List.cons_append, advance, hDir]
    simp [hIdle, hParent, hNode, hLong]
  | case6 links loc segment behind hDir hIdle hParent hNode hShort =>
    refine .inl ⟨_, rfl, ?_⟩
    rw [List.cons_append, advance, hDir]
    simp [hIdle, hParent, hNode, hShort]
  | case7 links loc segment behind hDir hIdle hParent target hLink hOn =>
    simp at hOn
  | case8 links loc segment behind hDir hIdle hParent target hLink hOn
      hEmpty =>
    refine .inl ⟨_, rfl, ?_⟩
    rw [List.cons_append, advance, hDir]
    simp [hIdle, hParent, hLink, hEmpty]
  | case9 loc segment behind hDir hIdle hParent target hLink hOn hSome =>
    refine .inl ⟨_, rfl, ?_⟩
    rw [List.cons_append, advance, hDir]
    simp [hIdle, hParent, hLink, hSome]
  | case10 loc segment behind hDir hIdle hParent target hLink hOn hSome
      links ih =>
    rw [List.cons_append, advance, hDir]
    simpa [hIdle, hParent, hLink, hSome] using ih
  | case11 links loc segment behind hDir hIdle hParent node hOther hNode
      ih =>
    rw [List.cons_append, advance, hDir]
    simpa [hIdle, hParent, hNode] using ih
  | case12 links loc segment behind node hOther hNode =>
    refine .inl ⟨_, rfl, ?_⟩
    rw [List.cons_append, advance, hNode]
    cases node with
    | directory => exact absurd rfl hOther
    | file content executable => rfl
    | link target => rfl
    | pipe => rfl

------------------------------------------------------------
-- Paths To Entries
------------------------------------------------------------

theorem resolved?_of_locateEntry_error
    {error : PathError}
    (hEntry : t.locateEntry cwd p = .error error) :
    t.resolved? cwd p = none := by
  have hLocate : t.locate cwd p = .error error := by
    unfold locateEntry at hEntry
    unfold locate
    split at hEntry
    · exact hEntry
    · rwa [advance_of_not_link (by simp [hEntry])]
  rw [resolved?, hLocate]

/- A path to an entry that is no link leads to this entry. -/
theorem resolved?_of_locateEntry
    (hEntry : t.locateEntry cwd p = .ok loc)
    (hFree : ¬ t.IsLinkAt loc) :
    t.resolved? cwd p = (t.node? loc).map fun node => (loc, node) := by
  have hLocate : t.locate cwd p = .ok loc := by
    unfold locateEntry at hEntry
    unfold locate
    split at hEntry
    · cases hEntry
    · rw [advance_of_not_link, hEntry]
      intro dest hDest
      rw [hEntry] at hDest
      exact Except.ok.inj hDest ▸ hFree
  rw [resolved?, hLocate]

/- What leads to a directory leads on to an entry that is no link. -/
theorem advance_append_name
    {links : Nat}
    {start : Location}
    {segments : List String}
    {name : String}
    {node : Node}
    (hSegments : t.advance true links start segments = .ok loc)
    (hName : Path.IsName name)
    (hDir : t.node? loc = some .directory)
    (hNode : t.node? (loc ++ [name]) = some node)
    (hLink : node.isLink = false) :
    t.advance true links start (segments ++ [name]) =
      .ok (loc ++ [name]) := by
  rcases @advance_append t start links segments [name] with
    ⟨error, hError, _⟩ | ⟨dest, left, hDest, hAppend⟩
  · rw [hError] at hSegments
    cases hSegments
  · rw [hDest] at hSegments
    cases hSegments
    rw [hAppend]
    exact advance_name hName hDir hNode hLink

/- A slash in the end asks for a directory and leads no further. -/
theorem advance_of_append_slash
    {links : Nat}
    {start : Location}
    {segments : List String}
    (hSlash : t.advance true links start (segments ++ [""]) = .ok loc) :
    t.advance true links start segments = .ok loc := by
  rcases @advance_append t start links segments [""] with
    ⟨error, _, hError⟩ | ⟨dest, left, hDest, hAppend⟩
  · rw [hError] at hSlash
    cases hSlash
  · have hIdle : Path.isIdle "" = true := by decide
    rw [hAppend, advance] at hSlash
    split at hSlash
    · cases hSlash
    · rw [if_pos hIdle, advance] at hSlash
      rw [hDest, hSlash]
    · cases hSlash

/- Where a path can be followed, so can what it starts with. -/
theorem pathFault?_of_join_name
    {name : String}
    (hPath : p ≠ "")
    (hName : Path.IsName name)
    (hFit : pathFault? (p.join name) = none) :
    pathFault? p = none := by
  have hBehind : ∃ behind, p.join name = p ++ behind := by
    rw [Path.join_name hPath hName]
    split
    · exact ⟨_, rfl⟩
    · exact ⟨_, String.append_assoc⟩
  rcases hBehind with ⟨behind, hBehind⟩
  rw [hBehind, pathFault?_eq_none_iff, String.toList_append,
    List.mem_append] at hFit
  rcases hFit with ⟨-, hFree⟩
  apply pathFault?_eq_none_iff.mpr
  exact ⟨hPath, fun hNull => hFree (.inl hNull)⟩

theorem locate_join
    {name : String}
    {node : Node}
    (hPath : t.locate cwd p = .ok loc)
    (hName : Path.IsName name)
    (hDir : t.node? loc = some .directory)
    (hNode : t.node? (loc ++ [name]) = some node)
    (hLink : node.isLink = false)
    (hFit : pathFault? (p.join name) = none) :
    t.locate cwd (p.join name) = .ok (loc ++ [name]) := by
  unfold locate at hPath ⊢
  rw [hFit]
  split at hPath
  · cases hPath
  · next hFault =>
    have hSome := (pathFault?_eq_none_iff.mp hFault).1
    have hOrigin : origin cwd (p.join name) = origin cwd p := by
      unfold origin
      rw [Path.isAbsolute_join_name hSome hName]
    simp only [hOrigin]
    have hSplit : ∃ segments,
        t.advance true linkLimit (origin cwd p) segments = .ok loc ∧
          (p.join name).segments = segments ++ [name] := by
      rcases Path.segments_join_name hSome hName with
        ⟨front, hFront, hJoin⟩ | hJoin
      · rw [hFront] at hPath
        exact ⟨front, advance_of_append_slash hPath, hJoin⟩
      · exact ⟨p.segments, hPath, hJoin⟩
    rcases hSplit with ⟨segments, hSegments, hJoin⟩
    rw [hJoin]
    exact advance_append_name hSegments hName hDir hNode hLink

------------------------------------------------------------
-- Paths Through Links
------------------------------------------------------------

/- A link to a place is replaced by the names of that place. -/
theorem advance_place_link
    {front place : Location}
    {name : String}
    {rest : List String}
    (links : Nat)
    (hPlain : t.IsPlain (front ++ [name]))
    (hLink : t.node? (front ++ [name]) = some (.link place.toPath))
    (hPlace : place.IsProper)
    (hSome : place ≠ []) :
    t.advance true (links + 1) [] (front ++ name :: rest) =
      t.advance true links [] (place ++ rest) := by
  have hTarget : place.toPath.isEmpty = false :=
    Path.isEmpty_eq_false (Location.toPath_ne_empty place)
  have hOn : (rest.isEmpty && !true) = false := by simp
  have hIdle : Path.isIdle "" = true := by decide
  have hRoot : t.node? [] = some .directory := rfl
  rw [advance_link links hPlain hLink hTarget hOn, origin,
    if_pos (Location.isAbsolute_toPath place),
    Location.segments_toPath_of_ne_nil hPlace hSome, List.cons_append,
    advance, hRoot]
  simp [hIdle]

theorem resolved?_of_advance
    {node : Node}
    (hFit : IsFit loc)
    (hAdvance : t.advance true linkLimit [] loc = .ok dest)
    (hNode : t.node? dest = some node) :
    t.resolved? cwd loc.toPath = some (dest, node) := by
  rw [resolved?, locate_toPath hFit, hAdvance]
  simp [hNode]

theorem resolved?_of_advance_error
    {error : PathError}
    (hFit : IsFit loc)
    (hAdvance : t.advance true linkLimit [] loc = .error error) :
    t.resolved? cwd loc.toPath = none := by
  rw [resolved?, locate_toPath hFit, hAdvance]

/- A path to a link leads to the place that the link names. -/
theorem resolved?_of_link
    {front place : Location}
    {name : String}
    {node : Node}
    (hPlain : t.IsPlain (front ++ [name]))
    (hLink : t.node? (front ++ [name]) = some (.link place.toPath))
    (hPlace : t.IsPlain place)
    (hSome : place ≠ [])
    (hNode : t.node? place = some node)
    (hOther : node.isLink = false) :
    t.resolved? cwd (Location.toPath (front ++ [name])) =
      some (place, node) := by
  have hFollowed :
      t.advance true linkLimit [] (front ++ [name]) =
        t.advance true 39 [] (place ++ []) :=
    advance_place_link 39 hPlain hLink hPlace.fit.proper hSome
  rw [List.append_nil] at hFollowed
  have hEnd := advance_plain true 39 hPlace hNode (.inl hOther)
  exact resolved?_of_advance hPlain.fit (hFollowed.trans hEnd) hNode

end FileTree

end TreeLint
