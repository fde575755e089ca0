import TreeLint.Toml.Draft
import TreeLint.Toml.Quoted
import TreeLint.Toml.Scalar

/-
  Reading a TOML document.

  Key definitions include:
    * `Toml.readKeys?`
    * `Toml.readValue?`
    * `Toml.readLine?`
    * `Toml.readDocument?`

  A document is a sequence of lines: assignments, headers of
  tables and of arrays of tables, and comments.  Arrays may
  run over several lines and hold comments; tables written in
  braces stay on one line.
-/

------------------------------------------------------------
-- Space And Comments
------------------------------------------------------------

namespace TreeLint

namespace Toml

/- Drop blanks and tabs in front. -/
def skipSpace (text : List Char) : List Char :=
  text.dropWhile (fun c => c == ' ' || c == '\t')

/- The rest of the line ends here, or a comment does. -/
def skipComment? (text : List Char) : Option (List Char) :=
  let line := text.takeWhile (fun c => c != '\n')
  let behind := text.dropWhile (fun c => c != '\n')
  let comment :=
    match behind, line.getLast? with
    | _ :: _, some '\r' => line.dropLast
    | _, _ => line
  if comment.all Escape.isTextChar then some behind else none

/- Pass over the end of a line. -/
def readLineEnd? (text : List Char) : Option (List Char) :=
  match skipSpace text with
  | [] => some []
  | '\n' :: rest => some rest
  | '\r' :: '\n' :: rest => some rest
  | '#' :: rest => (skipComment? rest).map dropLineBreak
  | _ => none

/- Pass over blanks, line breaks and comments. -/
def skipAll? (text : List Char) : Option (List Char) :=
  match skipLines text with
  | '#' :: rest =>
    match skipComment? rest with
    | some behind =>
      if behind.length < text.length then skipAll? behind else none
    | none => none
  | rest => some rest
termination_by text.length

------------------------------------------------------------
-- Keys
------------------------------------------------------------

/- The characters of a key without quotes. -/
def isKeyChar (c : Char) : Bool :=
  c.isAlphanum || c == '_' || c == '-'

/- One key. -/
def readKey? : List Char → Option (String × List Char)
  | '"' :: rest => readBasic? rest
  | '\'' :: rest => readLiteral? rest
  | text =>
    match text.takeWhile isKeyChar with
    | [] => none
    | key => some (String.ofList key, text.dropWhile isKeyChar)

/- Keys with dots between them, and the space around them. -/
def readKeys? (text : List Char) : Option (List String × List Char) :=
  match readKey? (skipSpace text) with
  | none => none
  | some (key, behind) =>
    match skipSpace behind with
    | '.' :: rest =>
      if rest.length < text.length then
        (readKeys? rest).map (fun (keys, behind) => (key :: keys, behind))
      else
        none
    | rest => some ([key], rest)
termination_by text.length

/-
  How deep tables and arrays may be nested.  A key with dots
  may have one part less.
-/
def depthLimit : Nat := 80

/- Keys with dots that are not too many. -/
def readPath? (text : List Char) : Option (List String × List Char) :=
  (readKeys? text).filter (fun (keys, _) => keys.length < depthLimit)

------------------------------------------------------------
-- Values
------------------------------------------------------------

/- The items of an array behind its bracket. -/
def readItems?
    (readItem? : List Char → Option (Value × List Char))
    (text : List Char) : Option (List Value × List Char) :=
  match skipAll? text with
  | none => none
  | some (']' :: behind) => some ([], behind)
  | some start =>
    match readItem? start with
    | none => none
    | some (item, behindItem) =>
      match skipAll? behindItem with
      | some (']' :: behind) => some ([item], behind)
      | some (',' :: rest) =>
        if rest.length < text.length then
          (readItems? readItem? rest).map
            (fun (items, behind) => (item :: items, behind))
        else
          none
      | _ => none
termination_by text.length

/- The entries of a table in braces behind the brace. -/
def readEntries?
    (readItem? : List Char → Option (Value × List Char))
    (text : List Char)
    (entries : List (String × Item)) :
    Option (List (String × Item) × List Char) :=
  match readPath? text with
  | some (keys, '=' :: behindSign) =>
    match readItem? (skipSpace behindSign) with
    | none => none
    | some (v, behindItem) =>
      match assign? v keys entries, skipSpace behindItem with
      | some entries, '\x7d' :: behind => some (entries, behind)
      | some entries, ',' :: rest =>
        if rest.length < text.length then
          readEntries? readItem? rest entries
        else
          none
      | _, _ => none
  | _ => none
termination_by text.length

/- A value, nested at most so many times. -/
def readValue? (depth : Nat) (text : List Char) :
    Option (Value × List Char) :=
  match text with
  | '[' :: rest =>
    match depth with
    | 0 => none
    | inner + 1 =>
      (readItems? (readValue? inner) rest).map
        (fun (items, behind) => (.array items, behind))
  | '\x7b' :: rest =>
    match depth with
    | 0 => none
    | inner + 1 =>
      match skipSpace rest with
      | '\x7d' :: behind => some (.table [], behind)
      | start =>
        (readEntries? (readValue? inner) start []).map
          (fun (entries, behind) => (.table (toValues entries), behind))
  | '"' :: _ =>
    (readQuoted? text).map (fun (s, behind) => (.text s, behind))
  | '\'' :: _ =>
    (readQuoted? text).map (fun (s, behind) => (.text s, behind))
  | _ =>
    let (run, behind) := cutScalar text
    (scalar? run).map (fun v => (v, behind))

------------------------------------------------------------
-- Lines
------------------------------------------------------------

/- Read one line into a draft. -/
def readLine? (draft : Draft) (text : List Char) :
    Option (Draft × List Char) :=
  match skipSpace text with
  | [] => some (draft, [])
  | '\n' :: rest => some (draft, rest)
  | '\r' :: '\n' :: rest => some (draft, rest)
  | '#' :: rest =>
    (skipComment? rest).map (fun behind => (draft, dropLineBreak behind))
  | '[' :: '[' :: rest =>
    match readPath? rest with
    | some (keys, ']' :: ']' :: behind) =>
      match draft.openElement? keys, readLineEnd? behind with
      | some draft, some rest => some (draft, rest)
      | _, _ => none
    | _ => none
  | '[' :: rest =>
    match readPath? rest with
    | some (keys, ']' :: behind) =>
      match draft.openTable? keys, readLineEnd? behind with
      | some draft, some rest => some (draft, rest)
      | _, _ => none
    | _ => none
  | start =>
    match readPath? start with
    | some (keys, '=' :: behindSign) =>
      match readValue? (depthLimit - 1) (skipSpace behindSign) with
      | none => none
      | some (v, behind) =>
        match draft.assign? keys v, readLineEnd? behind with
        | some draft, some rest => some (draft, rest)
        | _, _ => none
    | _ => none

/- Read lines into a draft up to the end of the text. -/
def readLines? (draft : Draft) (text : List Char) : Option Draft :=
  if text.isEmpty then
    some draft
  else
    match readLine? draft text with
    | none => none
    | some (draft, rest) =>
      if rest.length < text.length then readLines? draft rest else none
termination_by text.length

/- Drop a byte order mark in front. -/
def dropMark : List Char → List Char
  | '\uFEFF' :: rest => rest
  | text => text

/- The table that a document describes. -/
def readDocument? (text : String) : Option Value :=
  (readLines? Draft.empty (dropMark text.toList)).map
    (fun draft => .table (toValues draft.root))

end Toml

end TreeLint
