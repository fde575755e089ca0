/-
  White space of texts.

  Key definitions include:
    * `Text.isBlankChar`
    * `Text.trimStart`
    * `Text.trimEnd`
    * `Text.trim`
    * `Text.isBlank`

  White space is the Unicode property White_Space, so a
  no-break space or a line separator at the end of a text is
  trimmed just like a blank or a tab.  The functions work on
  lists of characters; `trimText`, `trimTextEnd` and
  `isBlankText` are the same operations on strings.
-/

------------------------------------------------------------
-- The White Space Class
------------------------------------------------------------

namespace TreeLint

namespace Text

/- The characters with the Unicode property White_Space. -/
def isBlankChar (c : Char) : Bool :=
  let n := c.toNat
  (0x09 ≤ n && n ≤ 0x0D)
    || n == 0x20
    || n == 0x85
    || n == 0xA0
    || n == 0x1680
    || (0x2000 ≤ n && n ≤ 0x200A)
    || n == 0x2028
    || n == 0x2029
    || n == 0x202F
    || n == 0x205F
    || n == 0x3000

------------------------------------------------------------
-- Trimming
------------------------------------------------------------

/- Drop the white space at the start. -/
def trimStart (text : List Char) : List Char :=
  text.dropWhile isBlankChar

/- Drop the white space at the end. -/
def trimEnd (text : List Char) : List Char :=
  (text.reverse.dropWhile isBlankChar).reverse

/- Drop the white space at both ends. -/
def trim (text : List Char) : List Char :=
  trimEnd (trimStart text)

/- A text is blank when it holds nothing but white space. -/
def isBlank (text : List Char) : Bool :=
  text.all isBlankChar

/- `trim` on strings. -/
def trimText (text : String) : String :=
  String.ofList (trim text.toList)

/- `trimEnd` on strings. -/
def trimTextEnd (text : String) : String :=
  String.ofList (trimEnd text.toList)

/- `isBlank` on strings. -/
def isBlankText (text : String) : Bool :=
  isBlank text.toList

------------------------------------------------------------
-- Basic Facts
------------------------------------------------------------

/- Trimming the end keeps a beginning of the text. -/
theorem trimEnd_append_blank
    (text : List Char) :
    ∃ tail, text = trimEnd text ++ tail ∧ isBlank tail = true := by
  refine ⟨(text.reverse.takeWhile isBlankChar).reverse, ?_, ?_⟩
  · rw [trimEnd, ← List.reverse_append,
      List.takeWhile_append_dropWhile, List.reverse_reverse]
  · simp only [isBlank, List.all_reverse]
    exact List.all_takeWhile

end Text

end TreeLint
