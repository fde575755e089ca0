import TreeLint.Proofs.Path.Places

/-
  Reading a path from a place.

  Key definitions include:
    * `Location.follow`
    * `Path.readFrom`
    * `Path.placeNamed`

  Key theorems include:
    * `Path.names_foldl_step`
    * `Path.foldl_segments_join`
    * `Path.resolve_eq_toPath`

  Someone who reads a path segment by segment stands at a
  place all the time: at first at the place that the path is
  seen from, and with each segment one step below or above it.
  Resolving a path is finding the place where this ends.
-/

------------------------------------------------------------
-- Reading
------------------------------------------------------------

namespace TreeLint

/- Where one segment leads from a place. -/
def Location.follow (loc : Location) : String → Location
  | "" => loc
  | "." => loc
  | ".." => loc.dropLast
  | name => loc ++ [name]

namespace Path

/- Where a path leads from a place, or from the root if it is absolute. -/
def readFrom (place : Location) (p : Path) : Location :=
  p.segments.foldl Location.follow
    (if p.isAbsolute then [] else place)

/- The place that a path names, seen from an absolute base. -/
def placeNamed (base p : Path) : Location :=
  p.readFrom (base.readFrom [])

end Path

------------------------------------------------------------
-- Proper Places
------------------------------------------------------------

/- A segment without a slash leads from a place to a place. -/
theorem Location.IsProper.follow
    {loc : Location}
    {segment : String}
    (hLoc : loc.IsProper)
    (hFree : '/' ∉ segment.toList) :
    IsProper (loc.follow segment) := by
  unfold Location.follow
  split
  · exact hLoc
  · exact hLoc
  · exact fun name hName => hLoc name (List.dropLast_subset loc hName)
  · next hEmpty hCurrent hParent =>
    have hIdle : Path.isIdle segment = false := by
      simpa [Path.isIdle, Path.current] using ⟨hEmpty, hCurrent⟩
    exact hLoc.concat ⟨hIdle, hParent, hFree⟩

namespace Path

theorem isProper_readFrom
    {place : Location}
    (hPlace : place.IsProper)
    (p : Path) :
    (p.readFrom place).IsProper := by
  have hFold :
      ∀ (segments : List String) (loc : Location),
        loc.IsProper →
        (∀ segment ∈ segments, '/' ∉ segment.toList) →
        Location.IsProper (segments.foldl Location.follow loc) := by
    intro segments
    induction segments with
    | nil => exact fun _ hLoc _ => hLoc
    | cons segment rest ih =>
      intro loc hLoc hFree
      exact
        ih _ (hLoc.follow (hFree segment List.mem_cons_self))
          (fun other hOther => hFree other (List.mem_cons_of_mem _ hOther))
  refine hFold p.segments _ ?_ (fun _ => not_slash_of_mem_segments)
  split
  · simp [Location.IsProper]
  · exact hPlace

theorem isProper_placeNamed
    (base p : Path) :
    (base.placeNamed p).IsProper :=
  isProper_readFrom
    (isProper_readFrom (by simp [Location.IsProper]) base) p

------------------------------------------------------------
-- Meanings As Places
------------------------------------------------------------

/- At the root and below, a step of a meaning is one of a place. -/
theorem Meaning.names_step
    {m : Meaning}
    (hAbsolute : m.absolute = true)
    (segment : String) :
    (m.step segment).names = Location.follow m.names segment := by
  unfold Location.follow
  split
  · rfl
  · rfl
  · show m.ascend.names = m.names.dropLast
    unfold Meaning.ascend Meaning.names
    rw [hAbsolute]
    cases hTrail : m.trail with
    | nil => simp [hTrail]
    | cons last rest => simp
  · next hEmpty hCurrent hParent =>
    have hIdle : isIdle segment = false := by
      simpa [isIdle, current] using ⟨hEmpty, hCurrent⟩
    have hUp : (segment == parent) = false := by
      simpa [parent] using hParent
    simp [Meaning.step, hIdle, hUp, Meaning.names]

theorem Meaning.names_foldl_step
    {m : Meaning}
    (hAbsolute : m.absolute = true)
    (segments : List String) :
    (segments.foldl Meaning.step m).names =
      segments.foldl Location.follow m.names := by
  induction segments generalizing m with
  | nil => rfl
  | cons segment rest ih =>
    rw [List.foldl_cons, List.foldl_cons,
      ih (by rw [Meaning.absolute_step, hAbsolute]),
      Meaning.names_step hAbsolute]

/- The canonical text of an absolute path is that of its place. -/
theorem normalize_eq_toPath
    {p : Path}
    (hAbsolute : p.isAbsolute = true)
    (place : Location) :
    p.normalize = Location.toPath (p.readFrom place) := by
  have hNames : p.meaning.names = p.readFrom place := by
    unfold meaning readFrom
    rw [hAbsolute, if_pos rfl, Meaning.names_foldl_step rfl]
    rfl
  simp [normalize, Meaning.render, hAbsolute, Location.toPath, hNames]

------------------------------------------------------------
-- Joined Paths
------------------------------------------------------------

/-
  What reads the segments one by one, and passes over empty
  ones, reads a joined path as its two parts.
-/
theorem foldl_segments_join
    {α : Type}
    {read : α → String → α}
    (hEmpty : ∀ a, read a "" = a)
    {base p : Path}
    (hBase : base ≠ "")
    (hRelative : p.isAbsolute = false)
    (start : α) :
    (base.join p).segments.foldl read start =
      p.segments.foldl read (base.segments.foldl read start) := by
  unfold join
  rw [hRelative, isEmpty_eq_false hBase]
  simp only [Bool.or_self, Bool.false_eq_true, if_false]
  split
  · next hSlash =>
    -- The slash at the end of the base is the separator.
    have hEnd : base.toList.getLast? = some '/' := by simpa using hSlash
    rcases List.getLast?_eq_some_iff.mp hEnd with ⟨front, hFront⟩
    have hSplit : base = String.ofList front ++ String.singleton '/' := by
      apply String.toList_inj.mp
      simp [hFront]
    have hAlone :
        base.segments = segments (String.ofList front) ++ [""] := by
      have hCut := splitAt_append_separator '/' (String.ofList front) ""
      rw [String.append_empty, ← hSplit] at hCut
      simpa [segments, splitAt_of_not_mem] using hCut
    have hJoined :
        segments (base ++ p) =
          segments (String.ofList front) ++ p.segments := by
      rw [hSplit]
      exact splitAt_append_separator '/' (String.ofList front) p
    rw [hJoined, hAlone]
    simp [hEmpty]
  · have hJoined :
        segments (base ++ "/" ++ p) = base.segments ++ p.segments :=
      splitAt_append_separator '/' base p
    rw [hJoined, List.foldl_append]

/- Resolving a path from an absolute base finds the place it names. -/
theorem resolve_eq_toPath
    {base : Path}
    (hBase : base.isAbsolute = true)
    (p : Path) :
    base.resolve p = Location.toPath (base.placeNamed p) := by
  unfold resolve placeNamed
  split
  · next hAbsolute => exact normalize_eq_toPath hAbsolute _
  · next hNot =>
    have hRelative : p.isAbsolute = false := by simpa using hNot
    have hSome : base ≠ "" := by
      rintro rfl
      cases hBase
    rw [normalize_eq_toPath (isAbsolute_join p hBase) []]
    unfold readFrom
    rw [isAbsolute_join p hBase, hBase, hRelative,
      foldl_segments_join (fun _ => rfl) hSome hRelative]
    rfl

end Path

end TreeLint
