import TreeLint.Proofs.Path.Places
import TreeLint.Proofs.Text.Cutting

/-
  Names seen from a place, and other spellings of them.

  Key definitions include:
    * `Path.IsRelative`
    * `Path.Respells`

  Key theorems include:
    * `Path.join_relative`
    * `Path.resolve_relative`
    * `Path.Respells.isRelative`
    * `Path.respells_holdChar`

  A relative name leads down from a place to a place below it.
  Writing the characters of a name differently gives such a
  name again, as long as slashes stay slashes and nothing new
  is spelled with dots alone.
-/

------------------------------------------------------------
-- Relative Names
------------------------------------------------------------

namespace TreeLint

namespace Path

/- A name that leads down through proper names. -/
def IsRelative (name : Path) : Prop :=
  Location.IsProper name.segments

instance : DecidablePred IsRelative :=
  fun name => inferInstanceAs (Decidable (Location.IsProper name.segments))

/- A path is what its segments make up. -/
theorem joinWith_segments
    (p : Path) :
    Text.joinWith "/" p.segments = p := by
  apply String.toList_inj.mp
  unfold Text.joinWith segments Text.splitAt
  rw [String.toList_intercalate, List.map_map]
  have hPieces :
      (Text.pieces (· == '/') p.toList).map
          (String.toList ∘ String.ofList) =
        Text.pieces (· == '/') p.toList := by
    simp [Function.comp_def]
  rw [hPieces]
  exact Text.intercalate_pieces '/' p.toList

theorem segments_ne_nil
    (p : Path) :
    p.segments ≠ [] := by
  unfold segments Text.splitAt
  simpa using Text.pieces_ne_nil _ _

namespace IsRelative

variable {name : Path}

theorem isAbsolute_eq_false
    (hName : name.IsRelative) :
    name.isAbsolute = false := by
  cases hSegments : name.segments with
  | nil => exact absurd hSegments (segments_ne_nil name)
  | cons first rest =>
    have hFirst : IsName first :=
      hName first (hSegments ▸ List.mem_cons_self)
    rw [← joinWith_segments name, hSegments]
    exact isAbsolute_joinWith_cons rest hFirst.ne_empty hFirst.2.2

end IsRelative

/- A relative name leads from a place to one below it. -/
theorem join_relative
    {place : Location}
    {name : Path}
    (hPlace : place.IsProper)
    (hName : name.IsRelative) :
    place.toPath.join name =
      Location.toPath (place ++ name.segments) := by
  have hJoin :=
    Location.join_joinWith hPlace hName (segments_ne_nil name)
  rwa [joinWith_segments] at hJoin

theorem resolve_relative
    {place : Location}
    {name : Path}
    (hPlace : place.IsProper)
    (hName : name.IsRelative) :
    place.toPath.resolve name = place.toPath.join name := by
  have hProper := Location.isProper_append.mpr ⟨hPlace, hName⟩
  unfold resolve
  rw [hName.isAbsolute_eq_false, if_neg Bool.false_ne_true,
    join_relative hPlace hName, Location.normalize_toPath hProper]

------------------------------------------------------------
-- Other Spellings
------------------------------------------------------------

/-
  A way of writing characters that keeps names apart: slashes
  stay what they are, and a character that is not written as
  itself is not written with dots alone.
-/
structure Respells (write : Char → List Char) : Prop where
  slash : write '/' = ['/']
  free : ∀ c, c ≠ '/' → '/' ∉ write c
  seen : ∀ c, write c = [c] ∨ ∃ d ∈ write c, d ≠ '.'

/- A text in another spelling. -/
def respelled (write : Char → List Char) (text : String) : String :=
  String.ofList (text.toList.flatMap write)

@[simp]
theorem toList_respelled
    (write : Char → List Char)
    (text : String) :
    (respelled write text).toList = text.toList.flatMap write :=
  String.toList_ofList

/- A text without slashes is a name if it is not dots alone. -/
theorem isName_of_mem_toList
    {text : String}
    {c : Char}
    (hMem : c ∈ text.toList)
    (hDot : c ≠ '.')
    (hSlash : '/' ∉ text.toList) :
    IsName text := by
  refine ⟨?_, ?_, hSlash⟩
  · unfold isIdle
    rw [Bool.or_eq_false_iff, Bool.eq_false_iff, ne_eq,
      String.isEmpty_iff, beq_eq_false_iff_ne]
    constructor
    · rintro rfl
      cases hMem
    · rintro rfl
      simp [current, hDot] at hMem
  · rintro rfl
    simp [parent, hDot] at hMem

namespace Respells

variable {write : Char → List Char}

theorem isName
    (hWrite : Respells write)
    {name : String}
    (hName : IsName name) :
    IsName (respelled write name) := by
  have hSlash : '/' ∉ (respelled write name).toList := by
    rw [toList_respelled]
    intro hMem
    rcases List.mem_flatMap.mp hMem with ⟨c, hChar, hIn⟩
    have hNe : c ≠ '/' := fun hEq => hName.2.2 (hEq ▸ hChar)
    exact hWrite.free c hNe hIn
  by_cases hSame : ∀ c ∈ name.toList, write c = [c]
  · have hEq : respelled write name = name := by
      apply String.toList_inj.mp
      rw [toList_respelled]
      generalize name.toList = chars at hSame
      induction chars with
      | nil => rfl
      | cons c rest ih =>
        have hRest :=
          ih fun d hLater => hSame d (List.mem_cons_of_mem _ hLater)
        rw [List.flatMap_cons, hSame c List.mem_cons_self, hRest]
        rfl
    exact hEq.symm ▸ hName
  · simp only [Classical.not_forall] at hSame
    rcases hSame with ⟨c, hChar, hOther⟩
    rcases hWrite.seen c with hSelf | ⟨d, hIn, hDot⟩
    · exact absurd hSelf hOther
    · refine isName_of_mem_toList ?_ hDot hSlash
      rw [toList_respelled]
      exact List.mem_flatMap.mpr ⟨c, hChar, hIn⟩

/- The segments of a name are respelled one by one. -/
theorem segments
    (hWrite : Respells write)
    (name : Path) :
    Path.segments (respelled write name) =
      name.segments.map (respelled write) := by
  have hPieces :=
    @Text.pieces_flatMap (· == '/') write
      (fun c hChar => by
        have hEq : c = '/' := by simpa using hChar
        rw [hEq, hWrite.slash])
      (fun c hChar d hIn => by
        have hNe : c ≠ '/' := by simpa using hChar
        have hOther : d ≠ '/' :=
          fun hEq => hWrite.free c hNe (hEq ▸ hIn)
        simpa using hOther)
      name.toList
  unfold Path.segments Text.splitAt
  rw [toList_respelled, hPieces, List.map_map, List.map_map]
  apply List.map_congr_left
  intro piece _
  simp [respelled]

theorem isRelative
    (hWrite : Respells write)
    {name : Path}
    (hName : name.IsRelative) :
    IsRelative (respelled write name) := by
  intro segment hSegment
  rw [hWrite.segments] at hSegment
  rcases List.mem_map.mp hSegment with ⟨old, hOld, rfl⟩
  exact hWrite.isName (hName old hOld)

end Respells

------------------------------------------------------------
-- Held Names
------------------------------------------------------------

theorem hold_eq_respelled
    (text : String) :
    RawByte.hold text = respelled RawByte.holdChar text := by
  apply String.toList_inj.mp
  rw [RawByte.toList_hold, toList_respelled]

theorem respells_holdChar :
    Respells RawByte.holdChar where
  slash := by decide
  free := by
    intro c hNe hIn
    rcases RawByte.holdChar_cases c with hSelf | ⟨_, _, hBytes⟩
    · rw [hSelf, List.mem_singleton] at hIn
      exact hNe hIn.symm
    · exact absurd (hBytes '/' hIn) (by decide)
  seen := by
    intro c
    rcases RawByte.holdChar_cases c with hSelf | ⟨_, hSome, hBytes⟩
    · exact Or.inl hSelf
    · rcases List.exists_mem_of_ne_nil _ hSome with ⟨d, hIn⟩
      refine Or.inr ⟨d, hIn, ?_⟩
      rintro rfl
      exact absurd (hBytes '.' hIn) (by decide)

/- A relative name stays one when it is held. -/
theorem IsRelative.hold
    {name : Path}
    (hName : name.IsRelative) :
    IsRelative (RawByte.hold name) := by
  rw [hold_eq_respelled]
  exact respells_holdChar.isRelative hName

end Path

end TreeLint
