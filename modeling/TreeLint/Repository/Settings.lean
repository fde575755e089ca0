import TreeLint.Text.Lines
import TreeLint.Text.Numeral

/-
  Settings written as a text.

  Key definitions include:
    * `Setting`
    * `Settings.parse?`
    * `Settings.value?`
    * `Settings.boolean?`
    * `Settings.integer?`

  A text of settings is read line by line.  A header opens a
  section, and what stands behind it on its line is read on.
  A setting is a name, perhaps with a value, which may go on
  in the next lines behind a backslash at the end of its own.
-/

------------------------------------------------------------
-- Settings
------------------------------------------------------------

namespace TreeLint

/-
  A name with its section in front, and the value it is set
  to.  A name without a value stands for being true.
-/
structure Setting where
  name : String
  value : Option String
deriving DecidableEq, Repr

namespace Settings

/- White space between the words of a setting. -/
def isSpace (c : Char) : Bool :=
  c == ' ' || (9 ≤ c.toNat && c.toNat ≤ 13)

/- The characters of names. -/
def isNameChar (c : Char) : Bool :=
  c.isAlphanum || c == '-'

/- A text without the white space at its end. -/
def trimEnd (text : List Char) : List Char :=
  (text.reverse.dropWhile isSpace).reverse

/- A text without the white space at its start. -/
def trimStart (text : List Char) : List Char :=
  text.dropWhile isSpace

/- A text up to its first null character. -/
def upToNull (text : List Char) : List Char :=
  text.takeWhile (· != '\x00')

------------------------------------------------------------
-- Headers
------------------------------------------------------------

/- The text in quotes, and what follows the closing quote. -/
def quoted? : List Char → Option (List Char × List Char)
  | [] => none
  | '"' :: rest => some ([], rest)
  | '\\' :: c :: rest =>
    (quoted? rest).map fun (inner, behind) => (c :: inner, behind)
  | ['\\'] => none
  | c :: rest =>
    (quoted? rest).map fun (inner, behind) => (c :: inner, behind)

/- The name of a section and what stands behind its header. -/
def plainHeader? (line : List Char) : Option (String × List Char) :=
  let isPart (c : Char) : Bool := isNameChar c || c == '.'
  let name := line.takeWhile isPart
  let front := (String.ofList name).toLower
  match name.isEmpty && !(line.take 1).all isSpace,
      line.drop name.length with
  | true, _ => none
  | false, ']' :: rest => some (front, rest)
  | false, c :: rest =>
    if isSpace c && line.contains ']' then
      match trimStart rest with
      | '"' :: rest =>
        match quoted? rest with
        | some (inner, ']' :: behind) =>
          some (front ++ "." ++ String.ofList inner, behind)
        | _ => none
      | _ => none
    else
      none
  | false, [] => none

/- The same where null characters may stand behind the header. -/
def header? (line : List Char) : Option (String × List Char) :=
  let shown := upToNull line
  (plainHeader? shown).map fun (name, behind) =>
    (name, line.drop (shown.length - behind.length))

------------------------------------------------------------
-- Values
------------------------------------------------------------

/-
  A line up to a comment, without white space at its end, and
  whether a quote is still open there.  A null character ends
  a line too.
-/
def withoutComment (isOpen : Bool) (line : List Char) :
    List Char × Bool :=
  let (taken, isOpen) := upTo isOpen none false (upToNull line)
  (trimEnd taken, isOpen)
where
  /- The part before a comment; `before` is the last character. -/
  upTo (isOpen : Bool) (before : Option Char) (escaped : Bool) :
      List Char → List Char × Bool
    | [] => ([], isOpen)
    | c :: rest =>
      let isOpen :=
        if c == '"' && before != some '\\' then !isOpen
        else isOpen
      if (c == ';' || c == '#') && !isOpen && !escaped then
        ([], isOpen)
      else
        let (taken, after) := upTo isOpen (some c) (c == '\\' && !escaped) rest
        (c :: taken, after)

/- What a letter behind a backslash stands for. -/
def unescaped? (c : Char) : Option Char :=
  match c with
  | 'n' => some '\n'
  | 't' => some '\t'
  | 'b' => some '\x08'
  | '"' => some '"'
  | '\\' => some '\\'
  | _ => none

/-
  The text that a part of a value stands for, and whether the
  value goes on in the next line.
-/
def unescape? : List Char → Option (List Char × Bool)
  | [] => some ([], false)
  | ['\\'] => some ([], true)
  | '\\' :: c :: rest =>
    match unescaped? c, unescape? rest with
    | some d, some (text, goesOn) => some (d :: text, goesOn)
    | _, _ => none
  | c :: rest =>
    if c == '"' then
      unescape? rest
    else
      (unescape? rest).map fun (text, goesOn) => (c :: text, goesOn)

/- The rest of a value in the lines that follow, and the lines left. -/
def continued? (isOpen : Bool) :
    List (List Char) → Option (List Char × List (List Char))
  | [] => some ([], [])
  | line :: rest =>
    let (line, isOpen) := withoutComment isOpen line
    if line.isEmpty then
      continued? isOpen rest
    else
      match unescape? line with
      | none => none
      | some (text, false) => some (text, rest)
      | some (text, true) =>
        (continued? isOpen rest).map
          fun (more, rest) => (text ++ more, rest)

/- The setting on a line, and the lines behind it. -/
def setting? (section' : Option String) (line : List Char)
    (rest : List (List Char)) : Option (Setting × List (List Char)) :=
  let (line, isOpen) := withoutComment false (trimStart line)
  let name := line.takeWhile isNameChar
  let key := String.ofList name |>.toLower
  let full := match section' with
    | some front => front ++ "." ++ key
    | none => key
  if name.isEmpty then
    none
  else
    match trimStart (line.drop name.length) with
    | [] => some (⟨full, none⟩, rest)
    | '=' :: value =>
      match unescape? (trimStart value) with
      | none => none
      | some (text, false) =>
        some (⟨full, some (String.ofList text)⟩, rest)
      | some (text, true) =>
        (continued? isOpen rest).map fun (more, rest) =>
          (⟨full, some (String.ofList (text ++ more))⟩, rest)
    | _ => none

------------------------------------------------------------
-- Texts
------------------------------------------------------------

/- The white space that a line without a setting starts with. -/
def isIndent (c : Char) : Bool :=
  c == ' ' || c == '\t' || c == '\r'

/- The settings on lines, in a section that is open. -/
def parseLines? :
    Nat → Option String → List (List Char) → Option (List Setting)
  | 0, _, _ => none
  | _ + 1, _, [] => some []
  | fuel + 1, section', line :: rest =>
    match trimStart line with
    | [] =>
      if line.head?.all isIndent then parseLines? fuel section' rest
      else none
    | '[' :: text =>
      match header? text with
      | some (opened, behind) =>
        parseLines? fuel (some opened) (trimStart behind :: rest)
      | none => none
    | c :: _ =>
      if c == '#' || c == ';' then
        parseLines? fuel section' rest
      else
        match setting? section' line rest with
        | some (setting, rest) =>
          (parseLines? fuel section' rest).map (setting :: ·)
        | none => none

/- The settings of a text, in order; `none` if it is malformed. -/
def parse? (text : String) : Option (List Setting) :=
  let chars := match text.toList with
    | '\uFEFF' :: rest => rest
    | chars => chars
  parseLines? (2 * chars.length + 2) none (Text.pieces (· == '\n') chars)

------------------------------------------------------------
-- Asking For Values
------------------------------------------------------------

/- The last setting of a name. -/
def last? (settings : List Setting) (name : String) : Option Setting :=
  settings.reverse.find? (fun setting => setting.name == name)

/- The digits at the start of a text, and their base. -/
def digits (text : List Char) : Nat × List Char × List Char :=
  let (base, text) := match text with
    | '0' :: 'x' :: c :: rest => (16, c :: rest)
    | '0' :: 'X' :: c :: rest => (16, c :: rest)
    | '0' :: rest => (8, '0' :: rest)
    | text => (10, text)
  let isDigit (c : Char) : Bool := (Numeral.digit? base c).isSome
  (base, text.takeWhile isDigit, text.dropWhile isDigit)

/- The factor that a letter behind a number stands for. -/
def factor? : List Char → Option Int
  | [] => some 1
  | [c] =>
    match c.toLower with
    | 'k' => some 1024
    | 'm' => some (1024 * 1024)
    | 'g' => some (1024 * 1024 * 1024)
    | _ => none
  | _ => none

/- The integer of 32 bits that a value stands for. -/
def integer? (value : String) : Option Int :=
  let text := trimStart value.toList
  let (sign, text) : Int × List Char := match text with
    | '-' :: rest => (-1, rest)
    | '+' :: rest => (1, rest)
    | text => (1, text)
  let (base, digits, rest) := digits text
  match Numeral.natural? base digits, factor? rest with
  | some n, some factor =>
    let value := sign * n * factor
    if -2147483648 ≤ value && value ≤ 2147483647 then some value else none
  | _, _ => none

/- What a value says about a question; `none` if nothing. -/
def boolean? : Option String → Option Bool
  | none => some true
  | some value =>
    let word := value.toLower
    if ["true", "yes", "on"].contains word then some true
    else if ["false", "no", "off", ""].contains word then some false
    else (integer? value).map (· != 0)

end Settings

end TreeLint
