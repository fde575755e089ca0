import TreeLint.Proofs.Path.Relative

/-
  Names joined to a path, whatever its spelling.

  Key definitions include:
    * `Path.PartBy`

  Key theorems include:
    * `Path.parts_join`
    * `Path.parts_foldl_join`
    * `Path.PartBy.ne`

  A root may end with slashes, hold dots, or be relative.  A
  name that is joined to it is one part more in any case, and
  no part is lost.  So the parts of two paths below one root
  differ from the first name on which the two disagree.
-/

------------------------------------------------------------
-- One Name
------------------------------------------------------------

namespace TreeLint

namespace Path

variable {p : Path} {name : String}

/- What a name is joined with: the path, and a slash if it has none. -/
theorem join_name
    (hPath : p ≠ "")
    (hName : IsName name) :
    p.join name =
      (if p.toList.getLast? == some '/' then p else p ++ "/")
        ++ name := by
  unfold join
  rw [hName.isAbsolute_eq_false, isEmpty_eq_false hPath]
  simp only [Bool.or_self, Bool.false_eq_true, if_false]
  split <;> rfl

theorem join_name_ne_empty
    (hPath : p ≠ "")
    (hName : IsName name) :
    p.join name ≠ "" := by
  rw [join_name hPath hName]
  intro hEmpty
  rw [String.append_eq_empty_iff] at hEmpty
  exact hName.ne_empty hEmpty.2

theorem segments_append_slash
    (p q : Path) :
    segments (p ++ "/" ++ q) = p.segments ++ q.segments :=
  splitAt_append_separator '/' p q

theorem exists_eq_append_slash
    (hEnd : p.toList.getLast? = some '/') :
    ∃ front : Path, p = front ++ "/" := by
  rcases List.getLast?_eq_some_iff.mp hEnd with ⟨chars, hChars⟩
  refine ⟨String.ofList chars, String.toList_inj.mp ?_⟩
  rw [hChars, String.toList_append, String.toList_ofList]
  rfl

/-
  A name is one segment more, or takes the place of the empty
  one behind a slash in the end.
-/
theorem segments_join_name
    (hPath : p ≠ "")
    (hName : IsName name) :
    (∃ front,
      p.segments = front ++ [""] ∧
      (p.join name).segments = front ++ [name]) ∨
    (p.join name).segments = p.segments ++ [name] := by
  rw [join_name hPath hName]
  split
  · next hEnd =>
    rcases exists_eq_append_slash (by simpa using hEnd) with
      ⟨front, rfl⟩
    have hFront := segments_append_slash front ""
    rw [String.append_empty] at hFront
    refine .inl ⟨front.segments, hFront, ?_⟩
    rw [segments_append_slash, hName.segments_eq]
  · refine .inr ?_
    rw [segments_append_slash, hName.segments_eq]

theorem steps_join
    (hPath : p ≠ "")
    (hName : IsName name) :
    (p.join name).steps = p.steps ++ [name] := by
  have hIdle : isIdle "" = true := by decide
  unfold steps
  rcases segments_join_name hPath hName with
    ⟨front, hSegments, hJoin⟩ | hJoin
  · rw [hJoin, hSegments, List.filter_append, List.filter_append]
    simp [hName.1, hIdle]
  · rw [hJoin, List.filter_append]
    simp [hName.1]

/- A slash stands between a path and a name, the path's own or a new one. -/
theorem toList_join_name
    (hPath : p ≠ "")
    (hName : IsName name) :
    (p.toList.getLast? = some '/' ∧
        (p.join name).toList = p.toList ++ name.toList) ∨
      (p.join name).toList = p.toList ++ '/' :: name.toList := by
  rw [join_name hPath hName]
  split
  · next hEnd =>
    exact .inl ⟨by simpa using hEnd, String.toList_append⟩
  · refine .inr ?_
    rw [String.toList_append, String.toList_append, List.append_assoc]
    rfl

theorem isAbsolute_join_name
    (hPath : p ≠ "")
    (hName : IsName name) :
    (p.join name).isAbsolute = p.isAbsolute :=
  isAbsolute_join_relative hPath hName.isAbsolute_eq_false

theorem startsWithDot_join_name
    (hPath : p ≠ "")
    (hName : IsName name) :
    (p.join name).startsWithDot = p.startsWithDot := by
  have hJoin := toList_join_name hPath hName
  unfold startsWithDot
  rcases hChars : p.toList with _ | ⟨c, _ | ⟨d, rest⟩⟩
  · exact absurd hChars (by simpa using hPath)
  · rw [hChars] at hJoin
    rcases hJoin with ⟨hSlash, hJoin⟩ | hJoin
    · have hEq : c = '/' := by simpa using hSlash
      rw [hJoin, hEq]
      rfl
    · rw [hJoin]
      by_cases hDot : c = '.' <;> simp [hDot]
  · have hFront :
        ∃ behind, (p.join name).toList = c :: d :: behind := by
      rw [hChars] at hJoin
      rcases hJoin with ⟨_, hJoin⟩ | hJoin
      · exact ⟨_, hJoin⟩
      · exact ⟨_, hJoin⟩
    rcases hFront with ⟨behind, hFront⟩
    rw [hFront]
    by_cases hDot : c = '.' <;> by_cases hSlash : d = '/' <;>
      simp [hDot, hSlash]

/- A name is one part more. -/
theorem parts_join
    (hPath : p ≠ "")
    (hName : IsName name) :
    (p.join name).parts = p.parts ++ [name] := by
  unfold parts
  rw [isAbsolute_join_name hPath hName,
    startsWithDot_join_name hPath hName, steps_join hPath hName,
    List.append_assoc]

------------------------------------------------------------
-- Several Names
------------------------------------------------------------

theorem foldl_join_ne_empty
    {names : Location}
    (hPath : p ≠ "")
    (hNames : names.IsProper) :
    names.foldl join p ≠ "" := by
  induction names generalizing p with
  | nil => exact hPath
  | cons first rest ih =>
    have hFirst := hNames first List.mem_cons_self
    exact
      ih (join_name_ne_empty hPath hFirst)
        (fun other hOther => hNames other (List.mem_cons_of_mem _ hOther))

theorem parts_foldl_join
    {names : Location}
    (hPath : p ≠ "")
    (hNames : names.IsProper) :
    (names.foldl join p).parts = p.parts ++ names := by
  induction names generalizing p with
  | nil => simp
  | cons first rest ih =>
    have hFirst := hNames first List.mem_cons_self
    have hRest : Location.IsProper rest :=
      fun other hOther => hNames other (List.mem_cons_of_mem _ hOther)
    rw [List.foldl_cons, ih (join_name_ne_empty hPath hFirst) hRest,
      parts_join hPath hFirst, List.append_assoc, List.singleton_append]

------------------------------------------------------------
-- Where Two Paths Part
------------------------------------------------------------

/-
  The first parts on which two paths disagree are related:
  what is in front of them is the same in both.
-/
def PartBy
    (related : String → String → Prop)
    (p q : Path) : Prop :=
  ∃ front a b behind later,
    p.parts = front ++ a :: behind ∧
    q.parts = front ++ b :: later ∧
    related a b

/- Paths that part at different names have different parts. -/
theorem PartBy.ne
    {q : Path}
    (hPart : PartBy (· ≠ ·) p q) :
    p.parts ≠ q.parts := by
  rcases hPart with ⟨front, a, b, behind, later, hLeft, hRight, hNe⟩
  rw [hLeft, hRight]
  intro hSame
  exact hNe (List.cons.inj (List.append_cancel_left hSame)).1

end Path

end TreeLint
