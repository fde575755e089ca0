/-
  Styled text on a terminal.

  Key definitions include:
    * `Style`
    * `Style.codes`
    * `Style.paint`

  A style begins with an escape sequence for each of its
  codes and ends with one that takes all of them back.
-/

------------------------------------------------------------
-- Styles
------------------------------------------------------------

namespace TreeLint

/- How a text is set off from the text around it. -/
inductive Style where
  | plain
  /- Stands back. -/
  | dim
  /- Stands out. -/
  | cyan
  /- Something that is to be written as it is. -/
  | bold
  /- Something that is wrong. -/
  | yellow
  /- The name of a failure. -/
  | boldRed
deriving DecidableEq, Repr

namespace Style

/- The codes that switch a style on. -/
def codes : Style → List String
  | plain => []
  | dim => ["2"]
  | cyan => ["36"]
  | bold => ["1"]
  | yellow => ["33"]
  | boldRed => ["1", "31"]

/- The escape sequence of a code. -/
def escape (code : String) : String :=
  "\x1b[" ++ code ++ "m"

/- A text in a style, if styles are wanted. -/
def paint (styled : Bool) (style : Style) (text : String) : String :=
  match styled, style.codes with
  | true, code :: rest =>
    String.join ((code :: rest).map escape) ++ text ++ escape "0"
  | _, _ => text

end Style

end TreeLint
