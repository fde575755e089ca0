import TreeLint.Proofs.Path.Canonical
import TreeLint.Proofs.Path.Readings

/-
  Paths seen from paths.

  Key definitions include:
    * `Path.Meaning.followedBy`

  Key theorems include:
    * `Path.Meaning.foldl_step_followedBy`
    * `Path.Meaning.followedBy_assoc`
    * `Path.meaning_join`
    * `Path.resolve_composes`

  Meanings are composed: one says where to stand, the next
  where to go from there.  Joining paths composes what they
  mean, and composing is associative.  So it does not matter
  whether a path is resolved in one go or part by part, nor
  which of the paths on the way are normalized.
-/

------------------------------------------------------------
-- One Meaning After Another
------------------------------------------------------------

namespace TreeLint

namespace Path

namespace Meaning

/- So many steps up. -/
def climb (m : Meaning) : Nat → Meaning
  | 0 => m
  | n + 1 => (m.climb n).ascend

/-
  Where the next path leads from where the first one led.  It
  climbs as far as it has to and then goes down along its
  names.
-/
def followedBy (m next : Meaning) : Meaning :=
  if next.absolute then
    next
  else
    let above := m.climb next.up
    { above with trail := next.trail ++ above.trail }

theorem followedBy_of_absolute
    {next : Meaning}
    (m : Meaning)
    (hAbsolute : next.absolute = true) :
    m.followedBy next = next := by
  unfold followedBy
  rw [hAbsolute, if_pos rfl]

theorem followedBy_relative
    (m : Meaning)
    (up : Nat)
    (trail : List String) :
    m.followedBy ⟨false, up, trail⟩ =
      { m.climb up with trail := trail ++ (m.climb up).trail } :=
  rfl

@[simp]
theorem followedBy_start
    (m : Meaning) :
    m.followedBy (start false) = m :=
  rfl

/- Going on from where the second path leads is part of it. -/
theorem ascend_followedBy
    (m next : Meaning) :
    (m.followedBy next).ascend = m.followedBy next.ascend := by
  rcases next with ⟨absolute, up, trail⟩
  cases absolute with
  | true => cases trail <;> rfl
  | false => cases trail <;> rfl

theorem step_followedBy
    (m next : Meaning)
    (segment : String) :
    (m.followedBy next).step segment =
      m.followedBy (next.step segment) := by
  unfold step
  split
  · rfl
  · split
    · exact ascend_followedBy m next
    · rcases next with ⟨absolute, up, trail⟩
      cases absolute <;> rfl

theorem foldl_step_followedBy
    (m next : Meaning)
    (segments : List String) :
    segments.foldl step (m.followedBy next) =
      m.followedBy (segments.foldl step next) := by
  induction segments generalizing next with
  | nil => rfl
  | cons segment rest ih =>
    rw [List.foldl_cons, List.foldl_cons, step_followedBy, ih]

theorem climb_followedBy
    (m next : Meaning)
    (n : Nat) :
    (m.followedBy next).climb n = m.followedBy (next.climb n) := by
  induction n with
  | zero => rfl
  | succ n ih =>
    show ((m.followedBy next).climb n).ascend = _
    rw [ih, ascend_followedBy]
    rfl

theorem start_climb
    (n : Nat) :
    (start false).climb n = ⟨false, n, []⟩ := by
  induction n with
  | zero => rfl
  | succ n ih =>
    show ((start false).climb n).ascend = _
    rw [ih]
    rfl

@[simp]
theorem start_followedBy
    (m : Meaning) :
    (start false).followedBy m = m := by
  rcases m with ⟨absolute, up, trail⟩
  cases absolute with
  | true => rfl
  | false =>
    rw [followedBy_relative, start_climb]
    simp

theorem followedBy_assoc
    (m next last : Meaning) :
    (m.followedBy next).followedBy last =
      m.followedBy (next.followedBy last) := by
  rcases last with ⟨absolute, up, trail⟩
  cases absolute with
  | true => rfl
  | false =>
    rw [followedBy_relative, followedBy_relative, climb_followedBy]
    rcases next.climb up with ⟨absolute, higher, names⟩
    cases absolute with
    | true => rfl
    | false => simp [followedBy_relative]

end Meaning

------------------------------------------------------------
-- Joining And Resolving
------------------------------------------------------------

/- A path seen from an absolute or a relative one. -/
theorem meaning_join
    (base p : Path) :
    (base.join p).meaning = base.meaning.followedBy p.meaning := by
  cases hPath : p.isAbsolute with
  | true =>
    have hJoin : base.join p = p := by simp [join, hPath]
    rw [hJoin, Meaning.followedBy_of_absolute _ (by simpa using hPath)]
  | false =>
    by_cases hBase : base = ""
    · have hEmpty : meaning "" = Meaning.start false := by decide
      have hJoin : join "" p = p := by simp [join]
      rw [hBase, hJoin, hEmpty, Meaning.start_followedBy]
    · have hRead :=
        Meaning.foldl_step_followedBy base.meaning
          (Meaning.start false) p.segments
      rw [Meaning.followedBy_start] at hRead
      unfold meaning at hRead ⊢
      rw [isAbsolute_join_relative hBase hPath, hPath,
        foldl_segments_join (fun _ => rfl) hBase hPath, hRead]

/- Resolving is joining, whichever path is absolute. -/
theorem resolve_eq_normalize_join
    (base p : Path) :
    base.resolve p = (base.join p).normalize := by
  unfold resolve
  split
  · next hAbsolute =>
    have hJoin : base.join p = p := by simp [join, hAbsolute]
    rw [hJoin]
  · rfl

theorem resolve_eq_render
    (base p : Path) :
    base.resolve p = (base.meaning.followedBy p.meaning).render := by
  rw [resolve_eq_normalize_join, normalize_eq_render, meaning_join]

theorem meaning_resolve
    (base p : Path) :
    (base.resolve p).meaning = base.meaning.followedBy p.meaning := by
  rw [resolve_eq_normalize_join, meaning_normalize, meaning_join]

/- What is resolved from an absolute path is absolute. -/
theorem isAbsolute_resolve
    {base : Path}
    (p : Path)
    (hBase : base.isAbsolute = true) :
    (base.resolve p).isAbsolute = true := by
  rcases exists_place_of_resolve p hBase with ⟨loc, _, hText⟩
  rw [hText, Location.isAbsolute_toPath]

/-
  A path is resolved in two goes as in one.  It makes no
  difference whether the base or the path is normalized
  before, and from an absolute base the result is absolute.
-/
theorem resolve_composes
    (base p q : Path) :
    (base.resolve p).resolve q = base.resolve (p.join q) ∧
    base.normalize.resolve p = base.resolve p ∧
    base.resolve p.normalize = base.resolve p ∧
    base.normalize.resolve p.normalize = base.resolve p ∧
    (base.isAbsolute = true → (base.resolve p).isAbsolute = true) := by
  refine ⟨?_, ?_, ?_, ?_, isAbsolute_resolve p⟩
  · rw [resolve_eq_render, meaning_resolve, resolve_eq_render,
      meaning_join, Meaning.followedBy_assoc]
  · rw [resolve_eq_render, resolve_eq_render, meaning_normalize]
  · rw [resolve_eq_render, resolve_eq_render, meaning_normalize]
  · rw [resolve_eq_render, resolve_eq_render, meaning_normalize,
      meaning_normalize]

/- What climbs past the root in one go does so in two. -/
theorem resolved_past_root_in_two_goes :
    isAbsolute "/a/b" = true ∧
    join "../c/../../.." "d" = "../c/../../../d" ∧
    resolve (resolve "/a/b" "../c/../../..") "d" = "/d" ∧
    resolve "/a/b" "../c/../../../d" = "/d" ∧
    isAbsolute (resolve "/a/b" "../c/../../..") = true := by
  have hAbsolute : isAbsolute "/a/b" = true := rfl
  have hJoin : join "../c/../../.." "d" = "../c/../../../d" := by
    decide
  have hOne : resolve "/a/b" "../c/../../../d" = "/d" := by decide
  rcases resolve_composes "/a/b" "../c/../../.." "d" with
    ⟨hTwo, _, _, _, hResult⟩
  rw [hJoin] at hTwo
  exact ⟨hAbsolute, hJoin, hTwo.trans hOne, hOne, hResult hAbsolute⟩

end Path

end TreeLint
