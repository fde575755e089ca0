import TreeLint.FileTree.Basic

/-
  Places: absolute paths in normal form.

  Key definitions include:
    * `Path.IsName`
    * `Location.IsProper`

  Key theorems include:
    * `Path.exists_place_of_isAbsolute`
    * `Location.meaning_toPath`
    * `Location.normalize_toPath`
    * `Location.parts_toPath`
    * `Location.join_joinWith`
    * `Location.toPath_injective`

  An absolute path in normal form is the path of a location
  with proper names, and of no other.  Joining a name to it is
  one step down in the location, so questions about such
  paths are questions about lists of names.
-/

------------------------------------------------------------
-- Names
------------------------------------------------------------

namespace TreeLint

namespace Path

/- A text that can be the name of an entry in a directory. -/
def IsName (name : String) : Prop :=
  isIdle name = false ∧ name ≠ parent ∧ '/' ∉ name.toList

instance : DecidablePred IsName :=
  fun _ => inferInstanceAs (Decidable (_ ∧ _ ∧ _))

theorem isEmpty_eq_false
    {p : Path}
    (hSome : p ≠ "") :
    p.isEmpty = false := by
  rw [Bool.eq_false_iff, ne_eq, String.isEmpty_iff]
  exact hSome

theorem IsName.ne_empty
    {name : String}
    (hName : IsName name) :
    name ≠ "" := by
  rintro rfl
  exact absurd hName.1 (by decide)

theorem IsName.beq_parent
    {name : String}
    (hName : IsName name) :
    (name == parent) = false :=
  beq_eq_false_iff_ne.mpr hName.2.1

end Path

/- A location all of whose names are proper. -/
def Location.IsProper (loc : Location) : Prop :=
  ∀ name ∈ loc, Path.IsName name

instance : DecidablePred Location.IsProper :=
  fun loc => inferInstanceAs (Decidable (∀ name ∈ loc, _))

namespace Location

theorem isProper_append
    {loc names : Location} :
    IsProper (loc ++ names) ↔ IsProper loc ∧ IsProper names :=
  List.forall_mem_append

theorem IsProper.concat
    {loc : Location}
    {name : String}
    (hLoc : loc.IsProper)
    (hName : Path.IsName name) :
    IsProper (loc ++ [name]) :=
  isProper_append.mpr ⟨hLoc, by simpa [IsProper] using hName⟩

end Location

------------------------------------------------------------
-- Segments Of Joined Names
------------------------------------------------------------

namespace Path

theorem splitAt_of_not_mem
    {c : Char}
    {text : String}
    (hFree : c ∉ text.toList) :
    Text.splitAt c text = [text] := by
  have hPieces :
      Text.pieces (· == c) text.toList = [text.toList] := by
    apply Text.pieces_of_forall_not
    intro d hChar
    have hNe : d ≠ c := fun hEq => hFree (hEq ▸ hChar)
    simpa using hNe
  simp [Text.splitAt, hPieces]

/- A separator between two texts cuts them apart. -/
theorem splitAt_append_separator
    (c : Char)
    (before after : String) :
    Text.splitAt c (before ++ String.singleton c ++ after) =
      Text.splitAt c before ++ Text.splitAt c after := by
  have hPieces :=
    Text.pieces_append_separator (· == c) before.toList after.toList c
      (by simp)
  simp [Text.splitAt, hPieces]

/- Names that are joined are found again. -/
theorem segments_joinWith
    {names : List String}
    (hSome : names ≠ [])
    (hFree : ∀ name ∈ names, '/' ∉ name.toList) :
    segments (Text.joinWith "/" names) = names := by
  induction names with
  | nil => exact absurd rfl hSome
  | cons name rest ih =>
    have hName := splitAt_of_not_mem (hFree name List.mem_cons_self)
    cases rest with
    | nil => simpa [segments, Text.joinWith] using hName
    | cons other others =>
      have hRest :=
        ih (List.cons_ne_nil _ _)
          (fun later hLater => hFree later (List.mem_cons_of_mem _ hLater))
      have hCut :=
        splitAt_append_separator '/' name
          (Text.joinWith "/" (other :: others))
      unfold segments at hRest ⊢
      rw [hName, hRest] at hCut
      simpa [Text.joinWith, String.append_assoc] using hCut

theorem isAbsolute_of_not_mem
    {text : String}
    (hFree : '/' ∉ text.toList) :
    isAbsolute text = false := by
  unfold isAbsolute
  split
  · next rest hChars => exact absurd (hChars ▸ List.mem_cons_self) hFree
  · rfl

theorem IsName.isAbsolute_eq_false
    {name : String}
    (hName : IsName name) :
    isAbsolute name = false :=
  isAbsolute_of_not_mem hName.2.2

theorem IsName.segments_eq
    {name : String}
    (hName : IsName name) :
    segments name = [name] :=
  splitAt_of_not_mem hName.2.2

/- How a path starts is not changed by what stands behind it. -/
theorem isAbsolute_append
    {p : Path}
    (hSome : p ≠ "")
    (q : String) :
    isAbsolute (p ++ q) = p.isAbsolute := by
  unfold isAbsolute
  rw [String.toList_append]
  cases hText : p.toList with
  | nil => exact absurd (String.toList_eq_nil_iff.mp hText) hSome
  | cons c rest =>
    rw [List.cons_append]
    by_cases hSlash : c = '/'
    · subst hSlash
      rfl
    · simp [hSlash]

/- Names joined by slashes start with the first name. -/
theorem isAbsolute_joinWith_cons
    {name : String}
    (rest : List String)
    (hSome : name ≠ "")
    (hFree : '/' ∉ name.toList) :
    isAbsolute (Text.joinWith "/" (name :: rest)) = false := by
  have hText :
      ∃ behind, Text.joinWith "/" (name :: rest) = name ++ behind := by
    unfold Text.joinWith
    cases rest with
    | nil => exact ⟨"", by simp⟩
    | cons other others =>
      rw [String.intercalate_cons_cons, String.append_assoc]
      exact ⟨_, rfl⟩
  rcases hText with ⟨behind, hText⟩
  rw [hText, isAbsolute_append hSome, isAbsolute_of_not_mem hFree]

/- Texts joined by slashes end with the last of them. -/
theorem getLast?_joinWith
    {texts : List String}
    (hSome : texts ≠ [])
    (hFilled : ∀ text ∈ texts, text ≠ "" ∧ '/' ∉ text.toList) :
    ∃ c, (Text.joinWith "/" texts).toList.getLast? = some c ∧ c ≠ '/' := by
  rcases List.eq_nil_or_concat texts with rfl | ⟨front, last, hConcat⟩
  · exact absurd rfl hSome
  · rw [List.concat_eq_append] at hConcat
    subst hConcat
    have hLast := hFilled last (by simp)
    have hChars : last.toList ≠ [] := by
      simpa using hLast.1
    have hEnd :
        ∃ before,
          (Text.joinWith "/" (front ++ [last])).toList =
            before ++ last.toList := by
      unfold Text.joinWith
      cases front with
      | nil => exact ⟨[], by simp⟩
      | cons text rest =>
        rw [String.intercalate_append_of_ne_nil (List.cons_ne_nil _ _)
            (List.cons_ne_nil _ _),
          String.intercalate_singleton, String.toList_append]
        exact ⟨_, rfl⟩
    rcases hEnd with ⟨before, hEq⟩
    refine ⟨last.toList.getLast hChars, ?_, ?_⟩
    · rw [hEq, List.getLast?_append,
        List.getLast?_eq_some_getLast hChars]
      rfl
    · intro hSlash
      exact hLast.2 (hSlash ▸ List.getLast_mem hChars)

end Path

------------------------------------------------------------
-- Paths Of Locations
------------------------------------------------------------

namespace Location

theorem toList_toPath
    (loc : Location) :
    loc.toPath.toList = '/' :: (Text.joinWith "/" loc).toList := by
  simp [toPath]

theorem toPath_ne_empty
    (loc : Location) :
    loc.toPath ≠ "" := by
  intro hEmpty
  have hText := toList_toPath loc
  rw [hEmpty] at hText
  cases hText

@[simp]
theorem isAbsolute_toPath
    (loc : Location) :
    loc.toPath.isAbsolute = true := by
  simp [Path.isAbsolute, toList_toPath]

theorem segments_toPath
    (loc : Location) :
    loc.toPath.segments =
      "" :: Path.segments (Text.joinWith "/" loc) := by
  have hCut :=
    Path.splitAt_append_separator '/' "" (Text.joinWith "/" loc)
  simpa [Path.segments, toPath, Path.splitAt_of_not_mem] using hCut

theorem segments_toPath_of_ne_nil
    {loc : Location}
    (hProper : loc.IsProper)
    (hSome : loc ≠ []) :
    loc.toPath.segments = "" :: loc := by
  rw [segments_toPath,
    Path.segments_joinWith hSome
      (fun name hName => (hProper name hName).2.2)]

/- The steps of the path of a location are its names. -/
@[simp]
theorem steps_toPath
    {loc : Location}
    (hProper : loc.IsProper) :
    loc.toPath.steps = loc := by
  unfold Path.steps
  cases loc with
  | nil => decide
  | cons name rest =>
    rw [segments_toPath_of_ne_nil hProper (List.cons_ne_nil _ _),
      List.filter_cons_of_neg (by decide)]
    apply List.filter_eq_self.mpr
    intro other hOther
    simpa using (hProper other hOther).1

@[simp]
theorem parts_toPath
    {loc : Location}
    (hProper : loc.IsProper) :
    loc.toPath.parts = "/" :: loc := by
  simp [Path.parts, hProper]

/- Proper locations with the same path are the same. -/
theorem toPath_injective
    {loc other : Location}
    (hLoc : loc.IsProper)
    (hOther : other.IsProper)
    (hEq : loc.toPath = other.toPath) :
    loc = other := by
  rw [← steps_toPath hLoc, hEq, steps_toPath hOther]

/- Only the path of the root ends with a slash. -/
theorem getLast?_toPath
    {loc : Location}
    (hProper : loc.IsProper)
    (hSome : loc ≠ []) :
    loc.toPath.toList.getLast? ≠ some '/' := by
  have hFilled : ∀ name ∈ loc, name ≠ "" ∧ '/' ∉ name.toList :=
    fun name hName =>
      ⟨(hProper name hName).ne_empty, (hProper name hName).2.2⟩
  rw [toList_toPath, List.getLast?_cons]
  rcases Path.getLast?_joinWith hSome hFilled with ⟨c, hLast, hSlash⟩
  rw [hLast]
  simpa using hSlash

/- A path of several names behind the path of a location. -/
theorem join_joinWith
    {loc names : Location}
    (hLoc : loc.IsProper)
    (hNames : names.IsProper)
    (hSome : names ≠ []) :
    loc.toPath.join (Text.joinWith "/" names) =
      toPath (loc ++ names) := by
  have hRelative :
      Path.isAbsolute (Text.joinWith "/" names) = false := by
    cases names with
    | nil => exact absurd rfl hSome
    | cons name rest =>
      have hName := hNames name List.mem_cons_self
      exact
        Path.isAbsolute_joinWith_cons rest hName.ne_empty hName.2.2
  unfold Path.join
  rw [hRelative, Path.isEmpty_eq_false (toPath_ne_empty loc)]
  cases loc with
  | nil => simp [toPath, Text.joinWith]
  | cons first rest =>
    have hFirst : first :: rest ≠ [] := List.cons_ne_nil _ _
    have hEnd := getLast?_toPath hLoc hFirst
    have hJoin :
        Text.joinWith "/" (first :: rest ++ names) =
          Text.joinWith "/" (first :: rest) ++ "/" ++
            Text.joinWith "/" names :=
      String.intercalate_append_of_ne_nil hFirst hSome
    have hTest :
        ((toPath (first :: rest)).toList.getLast? ==
          some '/') = false := by
      simpa using hEnd
    rw [hTest]
    simp only [Bool.or_self, Bool.false_eq_true, if_false]
    unfold toPath
    rw [hJoin]
    simp only [String.append_assoc]

/- One step down from a location. -/
theorem join_toPath
    {loc : Location}
    {name : String}
    (hLoc : loc.IsProper)
    (hName : Path.IsName name) :
    loc.toPath.join name = toPath (loc ++ [name]) := by
  have hNames : IsProper [name] := by
    simpa [IsProper] using hName
  have hJoin := join_joinWith hLoc hNames (List.cons_ne_nil _ _)
  simpa [Text.joinWith] using hJoin

/- Several steps down from a location. -/
theorem foldl_join_toPath
    {loc names : Location}
    (hLoc : loc.IsProper)
    (hNames : names.IsProper) :
    names.foldl Path.join loc.toPath = toPath (loc ++ names) := by
  induction names generalizing loc with
  | nil => simp
  | cons name rest ih =>
    have hName := hNames name List.mem_cons_self
    have hRest : IsProper rest :=
      fun other hOther => hNames other (List.mem_cons_of_mem _ hOther)
    rw [List.foldl_cons, join_toPath hLoc hName,
      ih (hLoc.concat hName) hRest, List.append_assoc,
      List.singleton_append]

end Location

------------------------------------------------------------
-- Meanings
------------------------------------------------------------

namespace Path

namespace Meaning

@[simp]
theorem absolute_step
    (m : Meaning)
    (segment : String) :
    (m.step segment).absolute = m.absolute := by
  unfold step
  split
  · rfl
  · split
    · unfold ascend
      split <;> rfl
    · rfl

@[simp]
theorem absolute_foldl_step
    (segments : List String)
    (m : Meaning) :
    (segments.foldl step m).absolute = m.absolute := by
  induction segments generalizing m with
  | nil => rfl
  | cons segment rest ih => rw [List.foldl_cons, ih, absolute_step]

theorem isProper_step
    {m : Meaning}
    {segment : String}
    (hTrail : Location.IsProper m.trail)
    (hFree : '/' ∉ segment.toList) :
    Location.IsProper (m.step segment).trail := by
  unfold step
  split
  · exact hTrail
  · next hIdle =>
    split
    · unfold ascend
      split
      · exact hTrail
      · exact hTrail
      · next name rest _ hEq =>
        intro other hOther
        exact hTrail other (hEq ▸ List.mem_cons_of_mem _ hOther)
    · next hParent =>
      intro other hOther
      rcases List.mem_cons.mp hOther with rfl | hIn
      · exact ⟨by simpa using hIdle, by simpa using hParent, hFree⟩
      · exact hTrail other hIn

theorem isProper_foldl_step
    {m : Meaning}
    {segments : List String}
    (hTrail : Location.IsProper m.trail)
    (hFree : ∀ segment ∈ segments, '/' ∉ segment.toList) :
    Location.IsProper (segments.foldl step m).trail := by
  induction segments generalizing m with
  | nil => exact hTrail
  | cons segment rest ih =>
    exact
      ih (isProper_step hTrail (hFree segment List.mem_cons_self))
        (fun other hOther => hFree other (List.mem_cons_of_mem _ hOther))

/- Proper names are passed one after another. -/
theorem foldl_step_names
    (m : Meaning)
    {names : List String}
    (hNames : Location.IsProper names) :
    names.foldl Meaning.step m =
      { m with trail := names.reverse ++ m.trail } := by
  induction names generalizing m with
  | nil => rfl
  | cons name rest ih =>
    have hName := hNames name List.mem_cons_self
    have hRest : Location.IsProper rest :=
      fun other hOther => hNames other (List.mem_cons_of_mem _ hOther)
    have hStep : m.step name = { m with trail := name :: m.trail } := by
      simp [Meaning.step, hName.1, hName.2.1]
    rw [List.foldl_cons, hStep, ih _ hRest]
    simp

end Meaning

theorem not_slash_of_mem_segments
    {p : Path}
    {segment : String}
    (hSegment : segment ∈ p.segments) :
    '/' ∉ segment.toList := by
  rcases List.mem_map.mp hSegment with ⟨piece, hPiece, rfl⟩
  intro hSlash
  have hNot :=
    Text.not_separator_of_mem_pieces (· == '/') p.toList piece hPiece
      '/' (by simpa using hSlash)
  simp at hNot

@[simp]
theorem absolute_meaning
    (p : Path) :
    p.meaning.absolute = p.isAbsolute := by
  simp [meaning, Meaning.start]

/- The names that a path leads to are proper. -/
theorem isProper_names_meaning
    (p : Path) :
    Location.IsProper p.meaning.names := by
  have hTrail : Location.IsProper p.meaning.trail := by
    apply Meaning.isProper_foldl_step
    · simp [Meaning.start, Location.IsProper]
    · intro segment hSegment
      exact not_slash_of_mem_segments hSegment
  intro name hName
  exact hTrail name (List.mem_reverse.mp hName)

/- The canonical text of an absolute path is that of a location. -/
theorem exists_place_of_isAbsolute
    {p : Path}
    (hAbsolute : p.isAbsolute = true) :
    ∃ loc : Location,
      loc.IsProper ∧ p.normalize = loc.toPath := by
  refine ⟨p.meaning.names, isProper_names_meaning p, ?_⟩
  simp [normalize, Meaning.render, hAbsolute, Location.toPath]

end Path

/- What the path of a location means. -/
theorem Location.meaning_toPath
    {loc : Location}
    (hProper : loc.IsProper) :
    loc.toPath.meaning = ⟨true, 0, loc.reverse⟩ := by
  unfold Path.meaning
  rw [isAbsolute_toPath, segments_toPath]
  cases loc with
  | nil => decide
  | cons name rest =>
    have hIdle :
        (Path.Meaning.start true).step "" = Path.Meaning.start true :=
      by decide
    rw [Path.segments_joinWith (List.cons_ne_nil _ _)
        (fun other hOther => (hProper other hOther).2.2),
      List.foldl_cons, hIdle, Path.Meaning.foldl_step_names _ hProper]
    simp [Path.Meaning.start]

/- The path of a proper location is in normal form. -/
theorem Location.normalize_toPath
    {loc : Location}
    (hProper : loc.IsProper) :
    loc.toPath.normalize = loc.toPath := by
  unfold Path.normalize
  rw [meaning_toPath hProper]
  simp [Path.Meaning.render, Path.Meaning.names, toPath]

------------------------------------------------------------
-- Resolution
------------------------------------------------------------

namespace Path

theorem isAbsolute_join_relative
    {base p : Path}
    (hBase : base ≠ "")
    (hRelative : p.isAbsolute = false) :
    (base.join p).isAbsolute = base.isAbsolute := by
  unfold join
  rw [hRelative, isEmpty_eq_false hBase]
  simp only [Bool.or_self, Bool.false_eq_true, if_false]
  split
  · exact isAbsolute_append hBase p
  · rw [String.append_assoc]
    exact isAbsolute_append hBase _

theorem isAbsolute_join
    {base : Path}
    (p : Path)
    (hAbsolute : base.isAbsolute = true) :
    (base.join p).isAbsolute = true := by
  cases hPath : p.isAbsolute with
  | true => simp [join, hPath]
  | false =>
    have hBase : base ≠ "" := by
      rintro rfl
      cases hAbsolute
    rw [isAbsolute_join_relative hBase hPath, hAbsolute]

/- What is resolved from an absolute base is a place. -/
theorem exists_place_of_resolve
    {base : Path}
    (p : Path)
    (hBase : base.isAbsolute = true) :
    ∃ loc : Location,
      loc.IsProper ∧ base.resolve p = loc.toPath := by
  unfold resolve
  split
  · next hAbsolute => exact exists_place_of_isAbsolute hAbsolute
  · exact exists_place_of_isAbsolute (isAbsolute_join p hBase)

end Path

end TreeLint
