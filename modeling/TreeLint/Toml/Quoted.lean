import TreeLint.Text.Escape

/-
  Quoted texts of TOML.

  Key definitions include:
    * `Toml.readBasic?`
    * `Toml.readLiteral?`
    * `Toml.readLongBasic?`
    * `Toml.readLongLiteral?`
    * `Toml.readQuoted?`

  A text in double quotes may hold escapes, a text in single
  quotes may not.  Between three quotes a text may run over
  several lines; each line break in it is one line feed, and
  the one right behind the opening quotes is dropped.
-/

------------------------------------------------------------
-- Texts On One Line
------------------------------------------------------------

namespace TreeLint

namespace Toml

/- A text behind its opening double quote. -/
def readBasic? (text : List Char) : Option (String × List Char) :=
  match Escape.cutQuote? text with
  | some (inner, behind) =>
    (Escape.decode? inner).map (fun s => (s, behind))
  | none => none

/- A text behind its opening single quote. -/
def readLiteral? (text : List Char) : Option (String × List Char) :=
  let inner := text.takeWhile (fun c => c != '\'')
  match text.dropWhile (fun c => c != '\'') with
  | _ :: behind =>
    if inner.all Escape.isTextChar then
      some (String.ofList inner, behind)
    else
      none
  | [] => none

------------------------------------------------------------
-- Texts On Several Lines
------------------------------------------------------------

/- Drop blanks, tabs and line breaks in front. -/
def skipLines : List Char → List Char
  | ' ' :: rest => skipLines rest
  | '\t' :: rest => skipLines rest
  | '\n' :: rest => skipLines rest
  | '\r' :: '\n' :: rest => skipLines rest
  | text => text

theorem skipLines_length_le
    (text : List Char) :
    (skipLines text).length ≤ text.length := by
  fun_induction skipLines text <;> simp_all <;> omega

/- Drop one line break in front. -/
def dropLineBreak : List Char → List Char
  | '\n' :: rest => rest
  | '\r' :: '\n' :: rest => rest
  | text => text

/- Whether a line ends here, but for blanks and tabs. -/
def atLineEnd (text : List Char) : Bool :=
  match text.dropWhile (fun c => c == ' ' || c == '\t') with
  | '\n' :: _ => true
  | '\r' :: '\n' :: _ => true
  | _ => false

/-
  Three quotes end a text; one or two more quotes in front of
  them belong to it, and further quotes stand behind it.  The
  answer is how many belong to the text, for a run of quotes
  that ends it.
-/
def closing? (quote : Char) (text : List Char) : Option (Nat × List Char) :=
  let count := min 5 (text.takeWhile (· == quote)).length
  if 3 ≤ count then some (count - 3, text.drop count) else none

/-
  A text in double quotes up to the three that end it.  A
  backslash at the end of a line joins the lines.
-/
def readLongBasicFrom? (text : List Char) :
    Option (List Char × List Char) :=
  match closing? '"' text with
  | some (more, behind) => some (List.replicate more '"', behind)
  | none =>
    match text with
    | [] => none
    | '\\' :: rest =>
      if atLineEnd rest then
        readLongBasicFrom? (skipLines rest)
      else
        match Escape.readChar? rest with
        | some (c, taken) =>
          (readLongBasicFrom? (rest.drop taken)).map
            (fun (inner, behind) =>
              (RawByte.holdChar c ++ inner, behind))
        | none => none
    | '\r' :: '\n' :: rest =>
      (readLongBasicFrom? rest).map
        (fun (inner, behind) => ('\n' :: inner, behind))
    | c :: rest =>
      if Escape.isTextChar c || c == '\n' then
        (readLongBasicFrom? rest).map
          (fun (inner, behind) => (c :: inner, behind))
      else
        none
termination_by text.length
decreasing_by
  · have hLe := skipLines_length_le rest
    simp only [List.length_cons]
    omega
  · simp only [List.length_cons, List.length_drop]
    omega
  · simp only [List.length_cons]
    omega
  · simp

/- A text in single quotes up to the three that end it. -/
def readLongLiteralFrom? (text : List Char) :
    Option (List Char × List Char) :=
  match closing? '\'' text with
  | some (more, behind) => some (List.replicate more '\'', behind)
  | none =>
    match text with
    | [] => none
    | '\r' :: '\n' :: rest =>
      (readLongLiteralFrom? rest).map
        (fun (inner, behind) => ('\n' :: inner, behind))
    | c :: rest =>
      if Escape.isTextChar c || c == '\n' then
        (readLongLiteralFrom? rest).map
          (fun (inner, behind) => (c :: inner, behind))
      else
        none
termination_by text.length
decreasing_by
  · simp only [List.length_cons]
    omega
  · simp

------------------------------------------------------------
-- All Of Them
------------------------------------------------------------

/- A text behind three double quotes. -/
def readLongBasic? (text : List Char) : Option (String × List Char) :=
  (readLongBasicFrom? (dropLineBreak text)).map
    (fun (inner, behind) => (String.ofList inner, behind))

/- A text behind three single quotes. -/
def readLongLiteral? (text : List Char) : Option (String × List Char) :=
  (readLongLiteralFrom? (dropLineBreak text)).map
    (fun (inner, behind) => (String.ofList inner, behind))

/- A quoted text of any of the four kinds. -/
def readQuoted? : List Char → Option (String × List Char)
  | '"' :: '"' :: '"' :: rest => readLongBasic? rest
  | '\'' :: '\'' :: '\'' :: rest => readLongLiteral? rest
  | '"' :: rest => readBasic? rest
  | '\'' :: rest => readLiteral? rest
  | _ => none

end Toml

end TreeLint
