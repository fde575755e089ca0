/-
  Cutting a text into pieces at separator characters.

  Key definitions include:
    * `Text.pieces`
    * `Text.isLineBreak`
    * `Text.nonemptyLines`
    * `Text.joinWith`
    * `Text.lowerAscii`
    * `Text.splitAt`

  Key theorems include:
    * `Text.pieces_of_forall_not`
    * `Text.pieces_append_separator`

  `pieces` returns every maximal run without a separator,
  empty runs included, so that a text with `n` separators has
  `n + 1` pieces.
-/

------------------------------------------------------------
-- Pieces
------------------------------------------------------------

namespace TreeLint

namespace Text

/- The runs between separators, in order. -/
def pieces (isSeparator : Char → Bool) : List Char → List (List Char)
  | [] => [[]]
  | c :: rest =>
    match isSeparator c, pieces isSeparator rest with
    | true, found => [] :: found
    | false, [] => [[c]]
    | false, first :: others => (c :: first) :: others

theorem pieces_ne_nil
    (isSeparator : Char → Bool)
    (text : List Char) :
    pieces isSeparator text ≠ [] := by
  cases text with
  | nil => simp [pieces]
  | cons c rest =>
    simp only [pieces]
    split <;> simp

/- A text without separators is one piece. -/
theorem pieces_of_forall_not
    (isSeparator : Char → Bool)
    (text : List Char)
    (hFree : ∀ c ∈ text, isSeparator c = false) :
    pieces isSeparator text = [text] := by
  induction text with
  | nil => rfl
  | cons c rest ih =>
    have hRest := ih (fun d hd => hFree d (List.mem_cons_of_mem _ hd))
    simp [pieces, hFree c List.mem_cons_self, hRest]

/- A separator ends the pieces before it and starts new ones. -/
theorem pieces_append_separator
    (isSeparator : Char → Bool)
    (before after : List Char)
    (c : Char)
    (hSep : isSeparator c = true) :
    pieces isSeparator (before ++ c :: after) =
      pieces isSeparator before ++ pieces isSeparator after := by
  induction before with
  | nil => simp [pieces, hSep]
  | cons d rest ih =>
    simp only [List.cons_append, pieces, ih]
    cases isSeparator d with
    | true => simp
    | false =>
      have hNe := pieces_ne_nil isSeparator rest
      cases h : pieces isSeparator rest with
      | nil => exact absurd h hNe
      | cons first others => simp

/- No piece holds a separator. -/
theorem not_separator_of_mem_pieces
    (isSeparator : Char → Bool)
    (text piece : List Char)
    (hPiece : piece ∈ pieces isSeparator text)
    (c : Char)
    (hChar : c ∈ piece) :
    isSeparator c = false := by
  induction text generalizing piece with
  | nil =>
    simp only [pieces, List.mem_singleton] at hPiece
    subst hPiece
    cases hChar
  | cons d rest ih =>
    simp only [pieces] at hPiece
    split at hPiece
    · rcases List.mem_cons.mp hPiece with rfl | hIn
      · cases hChar
      · exact ih piece hIn hChar
    · next hNot hNil =>
      exact absurd hNil (pieces_ne_nil isSeparator rest)
    · next first others hNot hFound =>
      rcases List.mem_cons.mp hPiece with rfl | hIn
      · rcases List.mem_cons.mp hChar with rfl | hLater
        · exact hNot
        · exact ih first (hFound ▸ List.mem_cons_self) hLater
      · exact ih piece
          (hFound ▸ List.mem_cons_of_mem _ hIn) hChar

------------------------------------------------------------
-- Lines
------------------------------------------------------------

/- Carriage return and line feed each end a line. -/
def isLineBreak (c : Char) : Bool :=
  c == '\r' || c == '\n'

/- The lines of a text that hold at least one character. -/
def nonemptyLines (text : List Char) : List (List Char) :=
  (pieces isLineBreak text).filter (fun line => !line.isEmpty)

/- The texts in order with a separator between neighbours. -/
def joinWith (separator : String) (texts : List String) : String :=
  String.intercalate separator texts

/- A text with the letters A to Z in small. -/
def lowerAscii (text : String) : String :=
  String.ofList (text.toList.map Char.toLower)

/- The pieces of a string at one separator character. -/
def splitAt (separator : Char) (text : String) : List String :=
  (pieces (· == separator) text.toList).map String.ofList

end Text

end TreeLint
