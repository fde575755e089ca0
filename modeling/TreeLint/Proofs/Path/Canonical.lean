import TreeLint.Proofs.Path.Places

/-
  The canonical text of a path.

  Key definitions include:
    * `Path.IsStep`
    * `Path.Meaning.IsProper`
    * `Path.IsCanonical`
    * `Path.rewritten`

  Key theorems include:
    * `Path.Meaning.meaning_render`
    * `Path.isCanonical_iff`
    * `Path.normalize_eq_rewritten`
    * `Path.normalize_unique_canonical`

  A meaning that some path has is read back from its canonical
  text.  So two paths with the same meaning have the same
  canonical text, and no others have.  The canonical text can
  also be written part by part, where `..` takes away the last
  name of the text written so far.
-/

------------------------------------------------------------
-- Steps
------------------------------------------------------------

namespace TreeLint

namespace Path

/- A segment that leads somewhere: a name, or up. -/
def IsStep (segment : String) : Prop :=
  isIdle segment = false ∧ '/' ∉ segment.toList

theorem IsStep.ne_empty
    {segment : String}
    (hStep : IsStep segment) :
    segment ≠ "" := by
  rintro rfl
  exact absurd hStep.1 (by decide)

theorem IsStep.ne_current
    {segment : String}
    (hStep : IsStep segment) :
    segment ≠ current := by
  rintro rfl
  exact absurd hStep.1 (by decide)

theorem isStep_parent :
    IsStep parent := by
  constructor <;> decide

theorem IsName.isStep
    {name : String}
    (hName : IsName name) :
    IsStep name :=
  ⟨hName.1, hName.2.2⟩

theorem isStep_of_mem_steps
    {p : Path}
    {segment : String}
    (hSegment : segment ∈ p.steps) :
    IsStep segment := by
  rcases List.mem_filter.mp hSegment with ⟨hMem, hLeads⟩
  exact ⟨by simpa using hLeads, not_slash_of_mem_segments hMem⟩

/- A segment that leads somewhere, but not up, is a name. -/
theorem IsStep.isName
    {segment : String}
    (hStep : IsStep segment)
    (hDown : segment ≠ parent) :
    IsName segment :=
  ⟨hStep.1, hDown, hStep.2⟩

/- Levels up and names are steps. -/
theorem isStep_of_mem_levels
    {up : Nat}
    {names : List String}
    (hNames : ∀ name ∈ names, IsName name) :
    ∀ step ∈ List.replicate up parent ++ names, IsStep step := by
  intro step hStep
  rcases List.mem_append.mp hStep with hUp | hDown
  · exact List.eq_of_mem_replicate hUp ▸ isStep_parent
  · exact (hNames step hDown).isStep

------------------------------------------------------------
-- Steps Joined By Slashes
------------------------------------------------------------

section

variable {steps : List String}

theorem isAbsolute_joinWith
    (hSteps : ∀ step ∈ steps, IsStep step) :
    isAbsolute (Text.joinWith "/" steps) = false := by
  cases steps with
  | nil => rfl
  | cons first rest =>
    have hFirst := hSteps first List.mem_cons_self
    exact isAbsolute_joinWith_cons rest hFirst.ne_empty hFirst.2

/- Steps are texts that end with something other than a slash. -/
theorem exists_getLast?_joinWith
    (hSteps : ∀ step ∈ steps, IsStep step)
    (hSome : steps ≠ []) :
    ∃ c, (Text.joinWith "/" steps).toList.getLast? = some c ∧ c ≠ '/' :=
  getLast?_joinWith hSome
    (fun step hStep =>
      ⟨(hSteps step hStep).ne_empty, (hSteps step hStep).2⟩)

theorem joinWith_ne_empty
    (hSteps : ∀ step ∈ steps, IsStep step)
    (hSome : steps ≠ []) :
    Text.joinWith "/" steps ≠ "" := by
  rcases exists_getLast?_joinWith hSteps hSome with ⟨c, hLast, _⟩
  intro hEmpty
  rw [hEmpty] at hLast
  cases hLast

theorem getLast?_joinWith_ne_slash
    (hSteps : ∀ step ∈ steps, IsStep step) :
    (Text.joinWith "/" steps).toList.getLast? ≠ some '/' := by
  by_cases hSome : steps = []
  · simp [hSome, Text.joinWith]
  · rcases exists_getLast?_joinWith hSteps hSome with
      ⟨c, hLast, hSlash⟩
    simpa [hLast] using hSlash

/- One step more at the end. -/
theorem join_joinWith_step
    {step : String}
    (hSteps : ∀ step ∈ steps, IsStep step)
    (hStep : IsStep step) :
    join (Text.joinWith "/" steps) step =
      Text.joinWith "/" (steps ++ [step]) := by
  have hRelative : isAbsolute step = false :=
    isAbsolute_of_not_mem hStep.2
  have hEnd :
      ((Text.joinWith "/" steps).toList.getLast? == some '/') = false := by
    simpa using getLast?_joinWith_ne_slash hSteps
  unfold join
  rw [hRelative, hEnd]
  cases hEq : steps with
  | nil => simp [Text.joinWith]
  | cons first rest =>
    have hSome : steps ≠ [] := by simp [hEq]
    rw [← hEq, isEmpty_eq_false (joinWith_ne_empty hSteps hSome)]
    simp [Text.joinWith,
      String.intercalate_append_of_ne_nil hSome]

theorem foldl_join_joinWith
    {more : List String}
    (hSteps : ∀ step ∈ steps, IsStep step)
    (hMore : ∀ step ∈ more, IsStep step) :
    more.foldl join (Text.joinWith "/" steps) =
      Text.joinWith "/" (steps ++ more) := by
  induction more generalizing steps with
  | nil => simp
  | cons first rest ih =>
    have hFirst := hMore first List.mem_cons_self
    have hLonger : ∀ step ∈ steps ++ [first], IsStep step := by
      intro step hStep
      rcases List.mem_append.mp hStep with hOld | hNew
      · exact hSteps step hOld
      · exact List.mem_singleton.mp hNew ▸ hFirst
    rw [List.foldl_cons, join_joinWith_step hSteps hFirst,
      ih hLonger
        (fun step hStep => hMore step (List.mem_cons_of_mem _ hStep)),
      List.append_assoc, List.singleton_append]

/- Reading the text reads its steps. -/
theorem meaning_joinWith
    (hSteps : ∀ step ∈ steps, IsStep step) :
    meaning (Text.joinWith "/" steps) =
      steps.foldl Meaning.step (Meaning.start false) := by
  unfold meaning
  rw [isAbsolute_joinWith hSteps]
  cases hEq : steps with
  | nil => decide
  | cons first rest =>
    rw [← hEq,
      segments_joinWith (by simp [hEq])
        (fun step hStep => (hSteps step hStep).2)]

theorem steps_joinWith
    (hSteps : ∀ step ∈ steps, IsStep step) :
    Path.steps (Text.joinWith "/" steps) = steps := by
  unfold Path.steps
  cases hEq : steps with
  | nil => decide
  | cons first rest =>
    rw [← hEq,
      segments_joinWith (by simp [hEq])
        (fun step hStep => (hSteps step hStep).2),
      List.filter_eq_self]
    intro step hStep
    simp [(hSteps step hStep).1]

/- A text that starts with a dot has the dot for its first segment. -/
theorem head?_segments_of_startsWithDot
    {p : Path}
    (hDot : p.startsWithDot = true) :
    p.segments.head? = some current := by
  unfold startsWithDot at hDot
  unfold segments Text.splitAt
  split at hDot
  · next hChars => simp [hChars, Text.pieces, current]
  · next rest hChars =>
    rw [hChars]
    simp [Text.pieces, current]
  · cases hDot

theorem startsWithDot_joinWith
    (hSteps : ∀ step ∈ steps, IsStep step) :
    startsWithDot (Text.joinWith "/" steps) = false := by
  rw [Bool.eq_false_iff]
  intro hDot
  have hHead := head?_segments_of_startsWithDot hDot
  cases hEq : steps with
  | nil =>
    rw [hEq] at hDot
    cases hDot
  | cons first rest =>
    rw [segments_joinWith (by simp [hEq])
        (fun step hStep => (hSteps step hStep).2),
      hEq, List.head?_cons] at hHead
    have hFirst := hSteps first (hEq ▸ List.mem_cons_self)
    exact hFirst.ne_current (Option.some.inj hHead)

theorem parts_joinWith
    (hSteps : ∀ step ∈ steps, IsStep step) :
    parts (Text.joinWith "/" steps) = steps := by
  unfold parts
  rw [isAbsolute_joinWith hSteps, startsWithDot_joinWith hSteps,
    steps_joinWith hSteps]
  rfl

end

------------------------------------------------------------
-- Proper Meanings
------------------------------------------------------------

namespace Meaning

/-
  What a path can mean: it leads along proper names, and from
  the root nothing leads up.
-/
structure IsProper (m : Meaning) : Prop where
  names : Location.IsProper m.names
  grounded : m.absolute = true → m.up = 0

theorem isProper_start
    (absolute : Bool) :
    (start absolute).IsProper :=
  ⟨by simp [start, Meaning.names, Location.IsProper], fun _ => rfl⟩

theorem IsProper.trail
    {m : Meaning}
    (hProper : m.IsProper) :
    Location.IsProper m.trail :=
  fun name hName => hProper.names name (List.mem_reverse.mpr hName)

/- From the root, a step leads down or back. -/
theorem up_step
    {m : Meaning}
    (hAbsolute : m.absolute = true)
    (segment : String) :
    (m.step segment).up = m.up := by
  unfold step
  split
  · rfl
  · split
    · unfold ascend
      rw [hAbsolute]
      cases m.trail <;> rfl
    · rfl

theorem IsProper.step
    {m : Meaning}
    {segment : String}
    (hProper : m.IsProper)
    (hFree : '/' ∉ segment.toList) :
    (m.step segment).IsProper where
  names := fun name hName =>
    isProper_step hProper.trail hFree name (List.mem_reverse.mp hName)
  grounded := by
    rw [absolute_step]
    intro hAbsolute
    rw [up_step hAbsolute, hProper.grounded hAbsolute]

theorem IsProper.foldl_step
    {m : Meaning}
    {segments : List String}
    (hProper : m.IsProper)
    (hFree : ∀ segment ∈ segments, '/' ∉ segment.toList) :
    (segments.foldl Meaning.step m).IsProper := by
  induction segments generalizing m with
  | nil => exact hProper
  | cons segment rest ih =>
    exact
      ih (hProper.step (hFree segment List.mem_cons_self))
        (fun other hOther => hFree other (List.mem_cons_of_mem _ hOther))

/- The steps that lead where a meaning leads. -/
def steps (m : Meaning) : List String :=
  List.replicate m.up parent ++ m.names

section

variable (absolute : Bool) (up : Nat) (name : String)
variable (trail : List String)

theorem names_cons :
    names ⟨absolute, up, name :: trail⟩ =
      names ⟨absolute, up, trail⟩ ++ [name] :=
  List.reverse_cons

theorem steps_cons :
    steps ⟨absolute, up, name :: trail⟩ =
      steps ⟨absolute, up, trail⟩ ++ [name] := by
  unfold steps
  rw [names_cons, List.append_assoc]

end

theorem IsProper.isStep
    {m : Meaning}
    (hProper : m.IsProper) :
    ∀ step ∈ m.steps, IsStep step :=
  isStep_of_mem_levels hProper.names

theorem foldl_step_parents
    (up n : Nat) :
    (List.replicate n parent).foldl step ⟨false, up, []⟩ =
      ⟨false, up + n, []⟩ := by
  induction n generalizing up with
  | zero => rfl
  | succ n ih =>
    have hStep :
        step ⟨false, up, []⟩ parent = ⟨false, up + 1, []⟩ :=
      rfl
    rw [List.replicate_succ, List.foldl_cons, hStep, ih]
    congr 1
    omega

/- Someone who takes the steps gets where they lead. -/
theorem IsProper.foldl_steps
    {m : Meaning}
    (hProper : m.IsProper)
    (hRelative : m.absolute = false) :
    m.steps.foldl Meaning.step (start false) = m := by
  unfold steps
  rw [List.foldl_append, start, foldl_step_parents,
    foldl_step_names _ hProper.names]
  rcases m with ⟨absolute, up, trail⟩
  subst hRelative
  simp [Meaning.names]

/- The canonical text, but for a relative path that leads nowhere. -/
def written (m : Meaning) : Path :=
  if m.absolute then Location.toPath m.names
  else Text.joinWith "/" m.steps

theorem render_eq_written
    {m : Meaning}
    (hProper : m.IsProper) :
    m.render = if m.written.isEmpty then current else m.written := by
  unfold render written
  cases hAbsolute : m.absolute with
  | true =>
    simp only [if_true]
    rw [isEmpty_eq_false (Location.toPath_ne_empty _)]
    rfl
  | false =>
    simp only [Bool.false_eq_true, if_false]
    have hText := joinWith_ne_empty hProper.isStep
    unfold steps at hText ⊢
    split
    · next hNil =>
      rw [hNil]
      rfl
    · next hSome =>
      rw [isEmpty_eq_false (hText hSome)]
      rfl

theorem IsProper.meaning_written
    {m : Meaning}
    (hProper : m.IsProper) :
    m.written.meaning = m := by
  unfold written
  cases hAbsolute : m.absolute with
  | true =>
    rw [if_pos rfl, Location.meaning_toPath hProper.names]
    rcases m with ⟨absolute, up, trail⟩
    have hUp : up = 0 := hProper.grounded hAbsolute
    subst hAbsolute hUp
    simp [Meaning.names]
  | false =>
    rw [if_neg Bool.false_ne_true, meaning_joinWith hProper.isStep,
      hProper.foldl_steps hAbsolute]

/- A proper meaning is read back from its canonical text. -/
theorem meaning_render
    {m : Meaning}
    (hProper : m.IsProper) :
    m.render.meaning = m := by
  rw [render_eq_written hProper]
  split
  · next hEmpty =>
    -- The lone dot means what the empty text means.
    have hWritten := hProper.meaning_written
    rw [String.isEmpty_iff.mp hEmpty] at hWritten
    rw [← hWritten]
    decide
  · exact hProper.meaning_written

end Meaning

theorem isProper_meaning
    (p : Path) :
    p.meaning.IsProper :=
  (Meaning.isProper_start p.isAbsolute).foldl_step
    (fun _ => not_slash_of_mem_segments)

@[simp]
theorem meaning_normalize
    (p : Path) :
    p.normalize.meaning = p.meaning :=
  Meaning.meaning_render (isProper_meaning p)

@[simp]
theorem isAbsolute_normalize
    (p : Path) :
    p.normalize.isAbsolute = p.isAbsolute := by
  rw [← absolute_meaning, meaning_normalize, absolute_meaning]

------------------------------------------------------------
-- Canonical Texts
------------------------------------------------------------

/-
  The texts written canonically: a slash and names joined by
  single slashes, or levels up and names joined by single
  slashes, or a lone dot.
-/
inductive IsCanonical : Path → Prop where
  | fromRoot
      (names : List String)
      (hNames : ∀ name ∈ names, IsName name) :
      IsCanonical ("/" ++ Text.joinWith "/" names)
  | relative
      (up : Nat)
      (names : List String)
      (hNames : ∀ name ∈ names, IsName name)
      (hSome : List.replicate up parent ++ names ≠ []) :
      IsCanonical
        (Text.joinWith "/" (List.replicate up parent ++ names))
  | here : IsCanonical current

theorem Meaning.IsProper.isCanonical_render
    {m : Meaning}
    (hProper : m.IsProper) :
    IsCanonical m.render := by
  unfold render
  split
  · exact .fromRoot m.names hProper.names
  · split
    · exact .here
    · next hSome => exact .relative m.up m.names hProper.names hSome

/- The canonical texts are those of proper meanings. -/
theorem isCanonical_iff
    {p : Path} :
    IsCanonical p ↔ ∃ m : Meaning, m.IsProper ∧ p = m.render := by
  constructor
  · intro hCanonical
    cases hCanonical with
    | fromRoot names hNames =>
      refine ⟨⟨true, 0, names.reverse⟩, ⟨?_, fun _ => rfl⟩, ?_⟩
      · simpa [Meaning.names, Location.IsProper] using hNames
      · simp [Meaning.render, Meaning.names]
    | relative up names hNames hSome =>
      refine ⟨⟨false, up, names.reverse⟩, ⟨?_, by simp⟩, ?_⟩
      · simpa [Meaning.names, Location.IsProper] using hNames
      · simp [Meaning.render, Meaning.names]
    | here => exact ⟨Meaning.start false, Meaning.isProper_start _, rfl⟩
  · rintro ⟨m, hProper, rfl⟩
    exact hProper.isCanonical_render

theorem normalize_of_isCanonical
    {p : Path}
    (hCanonical : IsCanonical p) :
    p.normalize = p := by
  rcases isCanonical_iff.mp hCanonical with ⟨m, hProper, rfl⟩
  rw [normalize_eq_render, Meaning.meaning_render hProper]

theorem isCanonical_normalize
    (p : Path) :
    IsCanonical p.normalize :=
  (isProper_meaning p).isCanonical_render

theorem normalize_eq_normalize_iff
    {p q : Path} :
    p.normalize = q.normalize ↔ p.meaning = q.meaning := by
  constructor
  · intro hSame
    rw [← meaning_normalize p, hSame, meaning_normalize]
  · intro hSame
    rw [normalize_eq_render, normalize_eq_render, hSame]

/- Only the root itself is written with a slash at the end. -/
theorem IsCanonical.eq_root
    {p : Path}
    (hCanonical : IsCanonical p)
    (hSlash : p.toList.getLast? = some '/') :
    p = "/" := by
  cases hCanonical with
  | fromRoot names hNames =>
    cases names with
    | nil => rfl
    | cons first rest =>
      exact
        absurd hSlash
          (Location.getLast?_toPath hNames (List.cons_ne_nil _ _))
  | relative up names hNames hSome =>
    exact
      absurd hSlash
        (getLast?_joinWith_ne_slash (isStep_of_mem_levels hNames))
  | here => cases hSlash

------------------------------------------------------------
-- Rewriting The Text
------------------------------------------------------------

/- Whether the last part of a text is a name. -/
def endsInName (text : Path) : Bool :=
  text.parts.getLast?.any (fun part => decide (IsName part))

/- A text without its last part. -/
def enclosing (text : Path) : Path :=
  text.parts.dropLast.foldl join ""

/-
  One part more behind a text.  A dot adds nothing.  The step
  up takes the name at the end away; without one it is written
  down, but not behind the root.
-/
def put (text : Path) (part : String) : Path :=
  if part == current then
    text
  else if part == parent then
    if text.endsInName then text.enclosing
    else if text.isAbsolute then text
    else text.join parent
  else
    text.join part

/- The parts of a path put behind one another. -/
def rewritten (p : Path) : Path :=
  let text := p.parts.foldl put ""
  if text.isEmpty then current else text

namespace Meaning

theorem IsProper.parts_written
    {m : Meaning}
    (hProper : m.IsProper) :
    m.written.parts =
      (if m.absolute then ["/"] else []) ++ m.steps := by
  unfold written
  cases hAbsolute : m.absolute with
  | true =>
    simp [Location.parts_toPath hProper.names, steps,
      hProper.grounded hAbsolute]
  | false => simp [parts_joinWith hProper.isStep]

theorem IsProper.isAbsolute_written
    {m : Meaning}
    (hProper : m.IsProper) :
    m.written.isAbsolute = m.absolute := by
  rw [← absolute_meaning, hProper.meaning_written]

theorem IsProper.join_written
    {absolute : Bool}
    {up : Nat}
    {trail : List String}
    {name : String}
    (hProper : IsProper ⟨absolute, up, trail⟩)
    (hName : IsName name) :
    (written ⟨absolute, up, trail⟩).join name =
      written ⟨absolute, up, name :: trail⟩ := by
  unfold written
  rw [names_cons, steps_cons]
  cases absolute with
  | true => exact Location.join_toPath hProper.names hName
  | false => exact join_joinWith_step hProper.isStep hName.isStep

/- One more step up from an unknown directory. -/
theorem join_written_parent
    (up : Nat) :
    (written ⟨false, up, []⟩).join parent =
      written ⟨false, up + 1, []⟩ := by
  have hSteps : ∀ step ∈ List.replicate up parent, IsStep step :=
    fun step hStep => List.eq_of_mem_replicate hStep ▸ isStep_parent
  have hJoin := join_joinWith_step hSteps isStep_parent
  rw [← List.replicate_succ'] at hJoin
  simpa [written, steps, Meaning.names] using hJoin

theorem IsProper.endsInName_written
    {m : Meaning}
    (hProper : m.IsProper) :
    m.written.endsInName = !m.trail.isEmpty := by
  have hRoot : ¬ IsName "/" := by decide
  have hParent : ¬ IsName parent := by decide
  unfold endsInName
  rw [hProper.parts_written]
  rcases m with ⟨absolute, up, _ | ⟨name, trail⟩⟩
  · cases absolute with
    | true =>
      have hUp : up = 0 := hProper.grounded rfl
      simp [hUp, steps, Meaning.names, hRoot]
    | false =>
      cases up with
      | zero => rfl
      | succ up => simp [steps, Meaning.names, List.replicate_succ', hParent]
  · have hName : IsName name := hProper.trail name List.mem_cons_self
    simp [steps, Meaning.names, ← List.append_assoc, hName]

/- The text without its last name. -/
theorem IsProper.enclosing_written
    {absolute : Bool}
    {up : Nat}
    {name : String}
    {trail : List String}
    (hProper : IsProper ⟨absolute, up, name :: trail⟩) :
    enclosing (written ⟨absolute, up, name :: trail⟩) =
      written ⟨absolute, up, trail⟩ := by
  have hRest : IsProper ⟨absolute, up, trail⟩ := by
    have hNames := hProper.names
    rw [names_cons] at hNames
    exact ⟨(Location.isProper_append.mp hNames).1, hProper.grounded⟩
  unfold enclosing
  rw [hProper.parts_written, steps_cons, ← List.append_assoc,
    List.dropLast_concat, List.foldl_append]
  cases absolute with
  | true =>
    have hUp : up = 0 := hProper.grounded rfl
    subst hUp
    have hRoot : ["/"].foldl join "" = Location.toPath [] := by decide
    simp only [if_true, steps, List.replicate_zero, List.nil_append]
    rw [hRoot,
      Location.foldl_join_toPath (by simp [Location.IsProper]) hRest.names]
    rfl
  | false =>
    have hText := @foldl_join_joinWith [] _ (by simp) hRest.isStep
    simpa [written, Text.joinWith] using hText

/- Putting a step behind a text takes this step. -/
theorem IsProper.put_written
    {m : Meaning}
    {segment : String}
    (hProper : m.IsProper)
    (hStep : IsStep segment) :
    put m.written segment = (m.step segment).written := by
  have hCurrent : (segment == current) = false := by
    simpa using hStep.ne_current
  unfold put Meaning.step
  rw [hCurrent, hStep.1, hProper.endsInName_written,
    hProper.isAbsolute_written]
  simp only [Bool.false_eq_true, if_false]
  split
  · next hParent =>
    have hUp : segment = parent := by simpa using hParent
    subst hUp
    rcases m with ⟨absolute, up, _ | ⟨name, trail⟩⟩
    · cases absolute with
      | true => rfl
      | false => exact join_written_parent up
    · exact hProper.enclosing_written
  · next hParent =>
    exact hProper.join_written (hStep.isName (by simpa using hParent))

theorem IsProper.foldl_put_written
    {m : Meaning}
    {segments : List String}
    (hProper : m.IsProper)
    (hSteps : ∀ segment ∈ segments, IsStep segment) :
    segments.foldl put m.written =
      (segments.foldl Meaning.step m).written := by
  induction segments generalizing m with
  | nil => rfl
  | cons segment rest ih =>
    have hFirst := hSteps segment List.mem_cons_self
    rw [List.foldl_cons, List.foldl_cons, hProper.put_written hFirst]
    exact
      ih (hProper.step hFirst.2)
        (fun other hOther => hSteps other (List.mem_cons_of_mem _ hOther))

end Meaning

/- Segments that lead nowhere are not missed. -/
theorem foldl_step_steps
    (p : Path)
    (m : Meaning) :
    p.steps.foldl Meaning.step m = p.segments.foldl Meaning.step m := by
  unfold steps
  rw [List.foldl_filter]
  congr 1
  funext m segment
  cases hIdle : isIdle segment with
  | true => simp [Meaning.step, hIdle]
  | false => simp

/- The canonical text is what rewriting the text gives. -/
theorem normalize_eq_rewritten
    (p : Path) :
    p.normalize = p.rewritten := by
  have hFront :
      p.parts.foldl put "" =
        p.steps.foldl put (Meaning.start p.isAbsolute).written := by
    unfold parts
    rw [List.foldl_append]
    congr 1
    cases p.isAbsolute <;> cases p.startsWithDot <;> decide
  have hText : p.parts.foldl put "" = p.meaning.written := by
    rw [hFront,
      (Meaning.isProper_start _).foldl_put_written
        (fun _ => isStep_of_mem_steps),
      foldl_step_steps]
    rfl
  unfold rewritten
  rw [hText, normalize_eq_render,
    Meaning.render_eq_written (isProper_meaning p)]

------------------------------------------------------------
-- The Unique Canonical Text
------------------------------------------------------------

/-
  The canonical text of a path means what the path means.  It
  is written canonically, so it ends with a slash only if it
  is the root, and no other canonical text has its meaning.
  Two paths share it exactly if they mean the same.  It is
  found by rewriting the text part by part, too.
-/
theorem normalize_unique_canonical
    (p : Path) :
    p.normalize.meaning = p.meaning ∧
    IsCanonical p.normalize ∧
    (p.normalize.toList.getLast? = some '/' → p.normalize = "/") ∧
    (∀ q : Path,
      IsCanonical q → q.meaning = p.meaning → q = p.normalize) ∧
    (∀ q : Path,
      p.normalize = q.normalize ↔ p.meaning = q.meaning) ∧
    p.normalize.normalize = p.normalize ∧
    p.normalize = p.rewritten := by
  refine
    ⟨meaning_normalize p, isCanonical_normalize p,
      (isCanonical_normalize p).eq_root, ?_,
      fun _ => normalize_eq_normalize_iff,
      normalize_of_isCanonical (isCanonical_normalize p),
      normalize_eq_rewritten p⟩
  intro q hCanonical hSame
  rw [← normalize_of_isCanonical hCanonical]
  exact normalize_eq_normalize_iff.mpr hSame

/- Above the start of a relative path there is no name to undo. -/
theorem climbing_path_normalized :
    normalize "./a//../../b/." = "../b" ∧
    IsCanonical "../b" ∧
    meaning "../b" = meaning "./a//../../b/." ∧
    "../b" = normalize "./a//../../b/." := by
  have hCanonical : IsCanonical "../b" :=
    .relative 1 ["b"] (by decide) (by decide)
  have hSame : meaning "../b" = meaning "./a//../../b/." := by decide
  rcases normalize_unique_canonical "./a//../../b/." with
    ⟨_, _, _, hUnique, _⟩
  have hText := hUnique "../b" hCanonical hSame
  exact ⟨hText.symm, hCanonical, hSame, hText⟩

end Path

end TreeLint
