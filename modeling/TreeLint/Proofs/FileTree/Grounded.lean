import TreeLint.Proofs.FileTree.Located

/-
  Paths behind the path of a directory.

  Key definitions include:
    * `FileTree.IsGrounded`

  Key theorems include:
    * `FileTree.advance_segments_join`
    * `FileTree.directory?_of_join`

  A path that is joined to the path of a directory leads from
  the root to where it leads from that directory.  No link is
  followed on the way to the directory itself, so as many are
  left behind it as in front of it.
-/

------------------------------------------------------------
-- Segments Of Joined Paths
------------------------------------------------------------

namespace TreeLint

namespace Location

theorem segments_join
    {loc : Location}
    {p : Path}
    (hProper : loc.IsProper)
    (hRelative : p.isAbsolute = false) :
    (loc.toPath.join p).segments = "" :: loc ++ p.segments := by
  unfold Path.join
  cases loc with
  | nil =>
    have hCut := Path.splitAt_append_separator '/' "" p
    rw [hRelative]
    simpa [toPath, Text.joinWith, Path.segments,
      Path.splitAt_of_not_mem] using hCut
  | cons name rest =>
    have hSome : name :: rest ≠ [] := List.cons_ne_nil _ _
    have hFilled : (toPath (name :: rest)).isEmpty = false :=
      Path.isEmpty_eq_false (toPath_ne_empty _)
    have hEnd :
        ((toPath (name :: rest)).toList.getLast? == some '/') = false := by
      simpa using getLast?_toPath hProper hSome
    have hCut :=
      Path.splitAt_append_separator '/' (toPath (name :: rest)) p
    rw [hRelative, hFilled, hEnd]
    simp only [Bool.or_self, Bool.false_eq_true, if_false]
    rw [← segments_toPath_of_ne_nil hProper hSome]
    exact hCut

end Location

namespace FileTree

variable {t : FileTree} {cwd loc : Location} {p : Path}

------------------------------------------------------------
-- Reaching Directories
------------------------------------------------------------

/- A directory that is reached through directories alone. -/
structure IsGrounded (t : FileTree) (loc : Location) : Prop where
  proper : loc.IsProper
  through : ∀ n ≤ loc.length, t.node? (loc.take n) = some .directory

instance (t : FileTree) : DecidablePred t.IsGrounded :=
  fun loc =>
    decidable_of_iff
      (loc.IsProper ∧
        ∀ n ≤ loc.length, t.node? (loc.take n) = some .directory)
      ⟨fun ⟨hProper, hThrough⟩ => ⟨hProper, hThrough⟩,
        fun hGrounded => ⟨hGrounded.proper, hGrounded.through⟩⟩

theorem advance_segments_join
    (followLast : Bool)
    (links : Nat)
    (hGrounded : t.IsGrounded cwd)
    (hRelative : p.isAbsolute = false) :
    t.advance followLast links [] (cwd.toPath.join p).segments =
      t.advance followLast links cwd p.segments := by
  rw [Location.segments_join hGrounded.proper hRelative,
    List.cons_append, advance]
  exact advance_through _ hGrounded.proper hGrounded.through

theorem exists_join_eq_append
    (base p : Path) :
    ∃ front, base.join p = front ++ p := by
  unfold Path.join
  split
  · exact ⟨"", by simp⟩
  · split
    · exact ⟨base, rfl⟩
    · exact ⟨base ++ "/", rfl⟩

/- What is wrong with a path is wrong with it behind another. -/
theorem pathFault?_of_join
    {base : Path}
    (hSome : p ≠ "")
    (hJoined : pathFault? (base.join p) = none) :
    pathFault? p = none := by
  rcases exists_join_eq_append base p with ⟨front, hFront⟩
  rw [hFront, pathFault?_eq_none_iff, String.toList_append,
    List.mem_append] at hJoined
  rcases hJoined with ⟨-, hFree⟩
  apply pathFault?_eq_none_iff.mpr
  exact ⟨hSome, fun hNull => hFree (.inr hNull)⟩

/- A path leads on from a directory as it leads behind its path. -/
theorem locate_of_join
    (hGrounded : t.IsGrounded cwd)
    (hSome : p ≠ "")
    (hLoc : t.locate [] (cwd.toPath.join p) = .ok loc) :
    t.locate cwd p = .ok loc := by
  unfold locate at hLoc ⊢
  split at hLoc
  · cases hLoc
  · next hFault =>
    rw [pathFault?_of_join hSome hFault]
    cases hAbsolute : p.isAbsolute with
    | true =>
      have hJoin : cwd.toPath.join p = p := by
        simp [Path.join, hAbsolute]
      rw [hJoin] at hLoc
      simpa [origin, hAbsolute] using hLoc
    | false =>
      have hOrigin (q : Path) : origin [] q = [] := by
        simp [origin]
      rw [hOrigin, advance_segments_join true linkLimit hGrounded
        hAbsolute] at hLoc
      simpa [origin, hAbsolute] using hLoc

theorem directory?_of_join
    (hGrounded : t.IsGrounded cwd)
    (hSome : p ≠ "")
    (hLoc : t.directory? [] (cwd.toPath.join p) = some loc) :
    t.directory? cwd p = some loc := by
  unfold directory? resolved? at hLoc ⊢
  cases hLocated : t.locate [] (cwd.toPath.join p) with
  | error e => simp [hLocated] at hLoc
  | ok located =>
    rw [locate_of_join hGrounded hSome hLocated]
    rw [hLocated] at hLoc
    exact hLoc

end FileTree

end TreeLint
