import TreeLint.Config.Value
import TreeLint.Text.Blank
import TreeLint.Text.Escape
import TreeLint.Text.Lines
import TreeLint.Text.RawByte

/-
  Configuration data in environment variables.

  Key definitions include:
    * `Variable.unescape?`
    * `Variable.readValue?`
    * `Variable.value`
    * `Variable.keys?`
    * `Variable.layer`

  A variable whose name has the prefix of the program sets
  one value at nested keys.  The value is written in a small
  grammar of its own; a text that does not follow it to its
  end is taken as it stands.
-/

------------------------------------------------------------
-- Scalars
------------------------------------------------------------

namespace TreeLint

namespace Variable

/- The white space that may surround a value. -/
def isSpace (c : Char) : Bool :=
  c == ' ' || c == '\t' || c == '\n' || c == '\r' || c == '\x0c'

/- Drop the white space in front. -/
def skipSpace (text : List Char) : List Char :=
  text.dropWhile isSpace

/- The characters at which an unquoted text ends. -/
def isSeparator (c : Char) : Bool :=
  c == ',' || c == '\x7b' || c == '\x7d' || c == '[' || c == ']'

/- The characters of a key without quotes. -/
def isKeyChar (c : Char) : Bool :=
  c.isAlphanum || c == '_' || c == '-'

/- The integers that fit into 64 bits, signed or not. -/
def fits (n : Int) : Bool :=
  -9223372036854775808 ≤ n && n < 18446744073709551616

/-
  What an unquoted text means: a number if it is one, and
  else the text.
-/
def ofBare (text : List Char) : Value :=
  if text.contains '.' && Numeral.hasFraction text then
    .real (String.ofList text)
  else
    match Numeral.signed? text with
    | some n => if fits n then .integer n else .text (String.ofList text)
    | none => .text (String.ofList text)

/-
  The beginning of some characters that takes as many bytes
  as there are characters, if one does.
-/
def byteFront? (text : List Char) : Option (List Char) :=
  (List.range (text.length + 1)).findSome? fun n =>
    let front := text.take n
    if (RawByte.encode (String.ofList front)).length == text.length then
      some front
    else
      none

/-
  The text that is meant by what stands between the quotes.
  Where there is an escape, the length of what stands before
  the first one is counted in characters and cut in bytes.
-/
def unescape? (inner : List Char) : Option String :=
  let front := inner.takeWhile (· != '\\')
  match inner.dropWhile (· != '\\') with
  | [] => Escape.decode? inner
  | rest =>
    if front.all Escape.isTextChar then
      (byteFront? front).bind (fun kept => Escape.decode? (kept ++ rest))
    else
      none

/- A quoted text behind its opening quote. -/
def readQuoted? (text : List Char) : Option (String × List Char) :=
  match Escape.cutQuote? text with
  | some (inner, behind) =>
    (unescape? inner).map (fun s => (s, behind))
  | none => none

/- The key of an entry and what stands behind it. -/
def readKey? : List Char → Option (String × List Char)
  | '"' :: rest => readQuoted? rest
  | text =>
    match text.takeWhile isKeyChar with
    | [] => none
    | key => some (String.ofList key, text.dropWhile isKeyChar)

------------------------------------------------------------
-- Values
------------------------------------------------------------

/- Drop a text from the front. -/
def dropText? (start : String) (text : List Char) : Option (List Char) :=
  if start.toList.isPrefixOf text then
    some (text.drop start.length)
  else
    none

mutual

/-
  Read one value, with the white space around it.  The number
  bounds the nesting and the length of what is read.
-/
def readValue? : Nat → List Char → Option (Value × List Char)
  | 0, _ => none
  | fuel + 1, text =>
    let start := skipSpace text
    match dropText? "true" start, dropText? "false" start with
    | some rest, _ => some (.boolean true, skipSpace rest)
    | none, some rest => some (.boolean false, skipSpace rest)
    | none, none =>
      match start with
      | '\x7b' :: rest =>
        (readEntries? fuel rest).map
          (fun (pairs, behind) =>
            (.table (Entries.ofPairs pairs), skipSpace behind))
      | '[' :: rest =>
        (readItems? fuel rest).map
          (fun (items, behind) => (.array items, skipSpace behind))
      | '"' :: rest =>
        (readQuoted? rest).map
          (fun (s, behind) => (.text s, skipSpace behind))
      | '\'' :: c :: '\'' :: rest =>
        some (.character c, skipSpace rest)
      | '\'' :: _ => none
      | _ =>
        let bare := start.takeWhile (fun c => !isSeparator c)
        let behind := start.dropWhile (fun c => !isSeparator c)
        some (ofBare (Text.trim bare), skipSpace behind)

/- Read the items of an array behind its bracket. -/
def readItems? : Nat → List Char → Option (List Value × List Char)
  | 0, _ => none
  | fuel + 1, text =>
    match text with
    | ']' :: behind => some ([], behind)
    | _ =>
      match readValue? fuel text with
      | none => none
      | some (item, ',' :: rest) =>
        (readItems? fuel rest).map
          (fun (items, behind) => (item :: items, behind))
      | some (item, ']' :: behind) => some ([item], behind)
      | some _ => none

/- Read the entries of a table behind its brace. -/
def readEntries? :
    Nat → List Char → Option (List (String × Value) × List Char)
  | 0, _ => none
  | fuel + 1, text =>
    match text with
    | '\x7d' :: behind => some ([], behind)
    | _ =>
      match readKey? (skipSpace text) with
      | none => none
      | some (key, afterKey) =>
        match skipSpace afterKey with
        | '=' :: afterSign =>
          match readValue? fuel afterSign with
          | none => none
          | some (value, ',' :: rest) =>
            (readEntries? fuel rest).map
              (fun (pairs, behind) => ((key, value) :: pairs, behind))
          | some (value, '\x7d' :: behind) =>
            some ([(key, value)], behind)
          | some _ => none
        | _ => none

end

/- The value that a variable is set to. -/
def value (text : String) : Value :=
  match readValue? (2 * text.length + 2) text.toList with
  | some (found, []) => found
  | _ => .text text

------------------------------------------------------------
-- Names
------------------------------------------------------------

/- What the names of all variables of a configuration start with. -/
def nameStart : String := "POLYLINT_"

/- Write a dot for every two underscores. -/
def dotted : List Char → List Char
  | '_' :: '_' :: rest => '.' :: dotted rest
  | c :: rest => c :: dotted rest
  | [] => []

/-
  The nested keys that a variable sets.  The blanks around its
  name do not count, and a name that leaves a key empty sets
  none.
-/
def keys? (name : String) : Option (List String) :=
  let start := (Text.lowerAscii nameStart).toList
  let name := Text.trimText name
  if start.isPrefixOf (Text.lowerAscii name).toList then
    let path := Text.trim (dotted (name.toList.drop nameStart.length))
    let keys := (Text.pieces (· == '.') path).map
      (fun key => Text.lowerAscii (String.ofList key))
    if keys.any String.isEmpty then none else some keys
  else
    none

/-
  What one variable contributes to a configuration.  Of bytes
  that are no text, what a reader sees is taken.
-/
def contribution? (name text : String) : Option Value :=
  (keys? (RawByte.mended name)).map fun keys =>
    Value.nest keys (value (RawByte.mended text))

/- The layer that an environment makes up. -/
def layer (env : List (String × String)) : Value :=
  Value.mergeLayers
    (env.filterMap (fun (name, text) => contribution? name text))

end Variable

end TreeLint
