import TreeLint.Text.Lines
import TreeLint.Text.RawByte

/-
  Texts without control sequences.

  Key definitions include:
    * `Control.State`
    * `Control.change`
    * `Control.hidden`
    * `Control.shown`
    * `Control.stripped`

  A text for a terminal may hold sequences that begin with an
  escape character and that are not shown.  What is left of a
  text without them is what is seen of it.  Of the characters
  that control a terminal by themselves only white space is
  left.
-/

------------------------------------------------------------
-- States
------------------------------------------------------------

namespace TreeLint

namespace Control

/- Where in a control sequence a text is. -/
inductive State where
  | ground
  | escape
  | escapeMiddle
  /- Behind the bracket that opens a command. -/
  | command
  | commandNumbers
  | commandMiddle
  | commandSkipped
  /- Behind the letter that opens a message to the device. -/
  | device
  | deviceNumbers
  | deviceMiddle
  | deviceSkipped
  | deviceText
  /- A message to the system. -/
  | systemText
  /- A text that nobody reads. -/
  | ignoredText
deriving DecidableEq, Repr

/- What a character does: the state it leads to, and whether it is seen. -/
structure Change where
  next? : Option State
  isSeen : Bool
deriving DecidableEq, Repr

/- The characters that control a terminal. -/
def isControl (c : Char) : Bool :=
  c.toNat < 0x20

/- The white space that is seen. -/
def isSpace (c : Char) : Bool :=
  c == '\t' || c == '\n' || c == '\x0c' || c == '\r'

/- Whether the code of a character lies between two others. -/
def isBetween (low high : Nat) (c : Char) : Bool :=
  low ≤ c.toNat && c.toNat ≤ high

/- The state behind an escape character and another one. -/
def State.afterEscape (c : Char) : Option State :=
  if isBetween 0x20 0x2F c then some .escapeMiddle
  else if c == '[' then some .command
  else if c == ']' then some .systemText
  else if c == 'P' then some .device
  else if c == 'X' || c == '^' || c == '_' then some .ignoredText
  else if isBetween 0x30 0x7E c then some .ground
  else none

/-
  The state that a character of seven bits leads to; `none`
  if it leads nowhere else.
-/
def State.next? (s : State) (c : Char) : Option State :=
  let isMiddle := isBetween 0x20 0x2F c
  let isNumber := isBetween 0x30 0x3B c
  let isMark := isBetween 0x3C 0x3F c
  let isLast := isBetween 0x40 0x7E c
  match s with
  | ground => none
  | escape => State.afterEscape c
  | escapeMiddle => if isBetween 0x30 0x7E c then some ground else none
  | command =>
    if isMiddle then some commandMiddle
    else if isNumber || isMark then some commandNumbers
    else if isLast then some ground else none
  | commandNumbers =>
    if isMiddle then some commandMiddle
    else if isMark then some commandSkipped
    else if isLast then some ground else none
  | commandMiddle =>
    if isNumber || isMark then some commandSkipped
    else if isLast then some ground else none
  | commandSkipped => if isLast then some ground else none
  | device =>
    if isMiddle then some deviceMiddle
    else if isNumber || isMark then some deviceNumbers
    else if isLast then some deviceText else none
  | deviceNumbers =>
    if isMiddle then some deviceMiddle
    else if isMark then some deviceSkipped
    else if isLast then some deviceText else none
  | deviceMiddle =>
    if isNumber || isMark then some deviceSkipped
    else if isLast then some deviceText else none
  | systemText => if c == '\x07' then some ground else none
  | deviceSkipped => none
  | deviceText => none
  | ignoredText => none

/- Whether a character that controls a terminal does so in a state. -/
def State.obeys (s : State) : Bool :=
  match s with
  | ground | escape | escapeMiddle | command | commandNumbers
  | commandMiddle | commandSkipped => true
  | _ => false

/- The byte that ends some texts. -/
def ending : UInt8 := 0x9C

/- What a character does in a state. -/
def change (s : State) (c : Char) : Change :=
  if c == '\x18' || c == '\x1A' then ⟨some .ground, false⟩
  else if c == '\x1B' then ⟨some .escape, false⟩
  else if c.toNat < 0x80 then
    ⟨s.next? c,
      if isControl c then s.obeys && isSpace c
      else s == .ground && c != '\x7F'⟩
  else if s == .ground then ⟨none, true⟩
  else if (s == .deviceText || s == .ignoredText)
      && (RawByte.encode (String.singleton c)).contains ending then
    ⟨some .ground, false⟩
  else ⟨none, false⟩

------------------------------------------------------------
-- Stripping
------------------------------------------------------------

/- A character of more than seven bits ends every sequence. -/
def settled (s : State) (c : Char) : State :=
  if c.toNat < 0x80 then s else .ground

mutual

/- What is seen of a text from a place on where nothing is seen. -/
def hidden : State → List Char → List Char
  | _, [] => []
  | s, c :: rest =>
    let found := change s c
    let s := found.next?.getD s
    if found.isSeen then c :: shown (settled s c) rest
    else hidden s rest

/-
  What is seen of a text from a place on where all is seen.
  A state that a sequence was left in is kept meanwhile.
-/
def shown : State → List Char → List Char
  | _, [] => []
  | s, c :: rest =>
    let found := change .ground c
    let s := found.next?.getD s
    if found.isSeen then c :: shown (settled s c) rest
    else
      let again := change s c
      hidden (again.next?.getD s) rest

end

/- What is seen of a text. -/
def stripped (text : String) : String :=
  String.ofList (hidden .ground text.toList)

end Control

end TreeLint
