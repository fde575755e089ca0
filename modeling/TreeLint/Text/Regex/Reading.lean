import TreeLint.Text.Numeral
import TreeLint.Text.Regex.Basic

/-
  How regular expressions are written.

  Key definitions include:
    * `Regex.Fault`
    * `Regex.Dialect`
    * `Regex.read`

  There are two ways to write an expression.  In the basic one
  an operator has a backslash in front of it, in the extended
  one it has none.  Programs differ in what they take an
  operator for that has nothing to work on.
-/

------------------------------------------------------------
-- Faults
------------------------------------------------------------

namespace TreeLint

namespace Regex

/- Why a text is no regular expression. -/
inductive Fault where
  | badReference
  | badClass
  | badCollation
  | badInterval
  | badOperator
  | badRange
  | openBracket
  | openGroup
  | closedGroup
  | openInterval
  | tooBig
  | trailingBackslash
  /- The name of a class stands alone. -/
  | bareClass
deriving DecidableEq, Repr

namespace Fault

/- The wording of a fault. -/
def message : Fault → String
  | badReference => "Invalid back reference"
  | badClass => "Invalid character class name"
  | badCollation => "Invalid collation character"
  | badInterval => "Invalid content of \\\x7b\\\x7d"
  | badOperator => "Invalid preceding regular expression"
  | badRange => "Invalid range end"
  | openBracket => "Unmatched [, [^, [:, [., or [="
  | openGroup => "Unmatched ( or \\("
  | closedGroup => "Unmatched ) or \\)"
  | openInterval => "Unmatched \\\x7b"
  | tooBig => "Regular expression too big"
  | trailingBackslash => "Trailing backslash"
  | bareClass =>
    "character class syntax is [[:space:]], not [:space:]"

end Fault

------------------------------------------------------------
-- Dialects
------------------------------------------------------------

/- A way to write expressions. -/
structure Dialect where
  /- Operators have no backslash in front of them. -/
  isExtended : Bool
  /- An operator that has nothing to work on is a fault. -/
  isStrict : Bool
deriving DecidableEq, Repr

/- What stands at a place in an expression. -/
inductive Token where
  | finish
  | char (c : Char)
  | set (ranges : List (Char × Char)) (isNegated : Bool)
  | any
  | bracket
  | place (place : Place)
  | again (n : Nat)
  | openGroup
  | closeGroup
  | bar
  | star
  | plus
  | question
  | openInterval
  | closeInterval
deriving DecidableEq, Repr

/- The meaning of a character behind a backslash. -/
def escaped (dialect : Dialect) (c : Char) : Token :=
  let operator (token : Token) : Token :=
    if dialect.isExtended then .char c else token
  match c with
  | '(' => operator .openGroup
  | ')' => operator .closeGroup
  | '|' => operator .bar
  | '+' => operator .plus
  | '?' => operator .question
  | '\x7b' => operator .openInterval
  | '\x7d' => operator .closeInterval
  | '<' => .place .wordStart
  | '>' => .place .wordEnd
  | 'b' => .place .edge
  | 'B' => .place .noEdge
  | '\x60' => .place .textStart
  | '\'' => .place .textEnd
  | 'w' => .set CharSet.word false
  | 'W' => .set CharSet.word true
  | 's' => .set CharSet.space false
  | 'S' => .set CharSet.space true
  | c =>
    if '1' ≤ c && c ≤ '9' then .again (c.toNat - '0'.toNat) else .char c

/- Whether a dollar sign in front of a rest is the end of a line. -/
def endsLine (dialect : Dialect) (rest : List Char) : Bool :=
  dialect.isExtended ||
    match rest with
    | [] => true
    | '\\' :: ')' :: _ => true
    | '\\' :: '|' :: _ => true
    | _ => false

/-
  The next token and what follows it.  A caret is the start of
  a line in basic expressions only where a part starts.
-/
def next (dialect : Dialect) (startsPart : Bool) :
    List Char → Except Fault (Token × List Char)
  | [] => .ok (.finish, [])
  | ['\\'] => .error .trailingBackslash
  | '\\' :: c :: rest => .ok (escaped dialect c, rest)
  | c :: rest =>
    let operator (token : Token) : Token :=
      if dialect.isExtended then token else .char c
    let token := match c with
      | '.' => Token.any
      | '[' => .bracket
      | '*' => .star
      | '^' =>
        if dialect.isExtended || startsPart then .place .lineStart
        else .char c
      | '$' =>
        if endsLine dialect rest then .place .lineEnd else .char c
      | '(' => operator .openGroup
      | ')' => operator .closeGroup
      | '|' => operator .bar
      | '+' => operator .plus
      | '?' => operator .question
      | '\x7b' => operator .openInterval
      | '\x7d' => operator .closeInterval
      | c => .char c
    .ok (token, rest)

------------------------------------------------------------
-- Brackets
------------------------------------------------------------

/- A member of a set in brackets. -/
inductive Member where
  | char (c : Char)
  | ranges (ranges : List (Char × Char))
deriving DecidableEq, Repr

/- The text up to a mark in front of a closing bracket. -/
def upToMark (mark : Char) : List Char → Except Fault (List Char × List Char)
  | c :: d :: rest =>
    if c == mark && d == ']' then .ok ([], rest)
    else (upToMark mark (d :: rest)).map fun (name, rest) => (c :: name, rest)
  | _ => .error .openBracket

/-
  A member at the start of a text, and what follows it.  A dash
  that may not be a member must be the last one.
-/
def member (mayBeDash : Bool) :
    List Char → Except Fault (Member × List Char)
  | [] => .error .openBracket
  | '[' :: ':' :: rest => do
    let (name, rest) ← upToMark ':' rest
    match CharSet.named? (String.ofList name) with
    | some ranges => .ok (.ranges ranges, rest)
    | none => .error .badClass
  | '[' :: mark :: rest =>
    if mark == '.' || mark == '=' then do
      let (name, rest) ← upToMark mark rest
      match name with
      | [c] => .ok (if mark == '.' then .char c else .ranges [(c, c)], rest)
      | _ => .error .badCollation
    else
      .ok (.char '[', mark :: rest)
  | '-' :: c :: rest =>
    if mayBeDash || c == ']' then .ok (.char '-', c :: rest)
    else .error .badRange
  | c :: rest => .ok (.char c, rest)

/- The members up to the closing bracket, and what follows it. -/
def members :
    Nat → Bool → List Char → Except Fault (List (Char × Char) × List Char)
  | 0, _, _ => .error .openBracket
  | fuel + 1, isFirst, text => do
    let (found, rest) ← member isFirst text
    let add (ranges : List (Char × Char)) (rest : List Char) :=
      match rest with
      | [] => .error .openBracket
      | ']' :: rest => .ok (ranges, rest)
      | rest =>
        (members fuel false rest).map fun (more, rest) =>
          (ranges ++ more, rest)
    match found, rest with
    | .ranges ranges, rest => add ranges rest
    | .char low, '-' :: d :: rest =>
      if d == ']' then
        add [(low, low)] ('-' :: d :: rest)
      else do
        let (high, rest) ← member true (d :: rest)
        match high with
        | .ranges _ => .error .badRange
        | .char high =>
          if low ≤ high then add [(low, high)] rest else .error .badRange
    | .char _, ['-'] => .error .openBracket
    | .char c, rest => add [(c, c)] rest

/- Whether a set looks like the name of a class without its brackets. -/
def isBareClass (text : List Char) : Bool :=
  match text with
  | ':' :: rest =>
    let inner := rest.takeWhile (· != ']')
    inner.getLast? == some ':'
      && (rest.drop inner.length).head? == some ']'
      && !inner.contains '['
  | _ => false

/- The set in brackets, and what follows it. -/
def bracketed (text : List Char) : Except Fault (CharSet × List Char) := do
  let (isNegated, text) := match text with
    | '^' :: rest => (true, rest)
    | text => (false, text)
  let (ranges, rest) ← members (text.length + 1) true text
  if !isNegated && isBareClass text then
    .error .bareClass
  else
    .ok (⟨isNegated, ranges⟩, rest)

------------------------------------------------------------
-- Intervals
------------------------------------------------------------

/- The greatest number in an interval. -/
def intervalLimit : Nat := 32767

/- What was found where a number is expected. -/
inductive Bound where
  | missing
  | wrong
  | number (n : Nat)
deriving DecidableEq, Repr

/- What ends a number. -/
inductive BoundEnd where
  | finish
  | comma
  | closing
deriving DecidableEq, Repr

/- A number in an interval, what ends it, and what follows. -/
def bound (dialect : Dialect) :
    Bound → List Char → Bound × BoundEnd × List Char
  | _, [] => (.wrong, .finish, [])
  | seen, ',' :: rest => (seen, .comma, rest)
  | seen, '\\' :: '\x7d' :: rest =>
    if dialect.isExtended then bound dialect .wrong rest
    else (seen, .closing, rest)
  | seen, c :: rest =>
    if c == '\x7d' && dialect.isExtended then (seen, .closing, rest)
    else
      match seen, Numeral.digit? 10 c with
      | .missing, some d => bound dialect (.number d) rest
      | .number n, some d =>
        bound dialect (.number (min (intervalLimit + 1) (n * 10 + d))) rest
      | _, _ => bound dialect .wrong rest

/-
  The limits in an interval and what follows it.  There are
  none if the opening sign stands for itself.
-/
def interval (dialect : Dialect) (text : List Char) :
    Except Fault (Option (Nat × Option Nat × List Char)) :=
  let mayBePlain := dialect.isExtended && !dialect.isStrict
  let broken (cut : BoundEnd) :=
    if mayBePlain then .ok none
    else .error (if cut == .finish then .openInterval else .badInterval)
  let checked (low : Nat) (high : Option Nat) (rest : List Char) :
      Except Fault (Option (Nat × Option Nat × List Char)) :=
    if high.any (fun high => high < low) then .error .badInterval
    else if intervalLimit < high.getD low then .error .tooBig
    else .ok (some (low, high, rest))
  let upTo (low : Nat) (text : List Char) :=
    match bound dialect .missing text with
    | (.wrong, cut, _) => broken cut
    | (_, .comma, _) => .error .badInterval
    | (.missing, _, rest) => checked low none rest
    | (.number high, _, rest) => checked low (some high) rest
  match bound dialect .missing text with
  | (.missing, .comma, rest) => upTo 0 rest
  | (.missing, _, _) => .error .badInterval
  | (.wrong, cut, _) => broken cut
  | (.number low, .comma, rest) => upTo low rest
  | (.number low, _, rest) => checked low (some low) rest

------------------------------------------------------------
-- Expressions
------------------------------------------------------------

/- How far an expression has been read. -/
structure Reader where
  rest : List Char
  opened : Nat
  closed : List Nat

namespace Reader

/- The same reader further on. -/
def movedTo (reader : Reader) (rest : List Char) : Reader :=
  { reader with rest }

end Reader

/- The operator in front of a rest, if it repeats what is before it. -/
def repetition? (dialect : Dialect) (reader : Reader) :
    Except Fault (Option (Nat × Option Nat × List Char × Bool)) := do
  match ← next dialect false reader.rest with
  | (.star, rest) => .ok (some (0, none, rest, true))
  | (.plus, rest) => .ok (some (1, none, rest, false))
  | (.question, rest) => .ok (some (0, some 1, rest, false))
  | (.openInterval, rest) =>
    (interval dialect rest).map fun found =>
      found.map fun (low, high, rest) => (low, high, rest, true)
  | _ => .ok none

/-
  All operators that repeat an expression.  A second one is a
  fault in strict basic expressions.
-/
def repeated (dialect : Dialect) :
    Nat → Bool → Regex → Reader → Except Fault (Regex × Reader)
  | 0, _, re, reader => .ok (re, reader)
  | fuel + 1, isFirst, re, reader => do
    match ← repetition? dialect reader with
    | none => .ok (re, reader)
    | some (low, high, rest, isDoubt) =>
      if !isFirst && isDoubt && dialect.isStrict && !dialect.isExtended then
        .error .badOperator
      else
        repeated dialect fuel false (.many re low high) (reader.movedTo rest)

mutual

/- Alternatives up to the end of a group or of the text. -/
def readEither (dialect : Dialect) :
    Nat → Nat → Reader → Except Fault (Regex × Reader)
  | 0, _, reader => .ok (.empty, reader)
  | fuel + 1, nested, reader => do
    let (first, reader) ← readSequence dialect fuel nested true reader
    match ← next dialect false reader.rest with
    | (.bar, rest) =>
      let (second, reader) ← readEither dialect fuel nested (reader.movedTo rest)
      .ok (.either first second, reader)
    | _ => .ok (first, reader)

/- Parts one behind the other. -/
def readSequence (dialect : Dialect) :
    Nat → Nat → Bool → Reader → Except Fault (Regex × Reader)
  | 0, _, _, reader => .ok (.empty, reader)
  | fuel + 1, nested, startsPart, reader => do
    -- The rest of a sequence behind a part that may be repeated.
    let goOn (re : Regex) (reader : Reader) :
        Except Fault (Regex × Reader) := do
      let (re, reader) ←
        repeated dialect (reader.rest.length + 1) true re reader
      let (more, reader) ← readSequence dialect fuel nested false reader
      .ok (if more == .empty then re else .sequence re more, reader)
    -- An operator that has nothing to work on.
    let loose (c : Char) (reader : Reader) :
        Except Fault (Regex × Reader) :=
      if !dialect.isExtended then goOn (.one (.single c)) reader
      else if dialect.isStrict then .error .badOperator
      else readSequence dialect fuel nested false reader
    match ← next dialect startsPart reader.rest with
    | (.finish, _) => .ok (.empty, reader)
    | (.bar, _) => .ok (.empty, reader)
    | (.closeGroup, rest) =>
      if nested != 0 then .ok (.empty, reader)
      else if dialect.isExtended && !dialect.isStrict then
        goOn (.one (.single ')')) (reader.movedTo rest)
      else .error .closedGroup
    | (.char c, rest) =>
      goOn (.one (.single c)) (reader.movedTo rest)
    | (.closeInterval, rest) =>
      goOn (.one (.single '\x7d')) (reader.movedTo rest)
    | (.set ranges isNegated, rest) =>
      goOn (.one ⟨isNegated, ranges⟩) (reader.movedTo rest)
    | (.any, rest) => goOn (.one .any) (reader.movedTo rest)
    | (.bracket, rest) =>
      let (set, rest) ← bracketed rest
      goOn (.one set) (reader.movedTo rest)
    | (.again n, rest) =>
      if reader.closed.contains n then
        goOn (.again n) (reader.movedTo rest)
      else
        .error .badReference
    | (.place p, rest) =>
      let (more, reader) ←
        readSequence dialect fuel nested false (reader.movedTo rest)
      .ok (.sequence (.place p) more, reader)
    | (.openGroup, rest) =>
      let n := reader.opened + 1
      let (inner, reader) ← readEither dialect fuel (nested + 1)
        { reader with rest, opened := n }
      match ← next dialect false reader.rest with
      | (.closeGroup, rest) =>
        goOn (.group n inner)
          { reader with rest, closed := n :: reader.closed }
      | _ => .error .openGroup
    | (.openInterval, rest) =>
      if dialect.isStrict then .error .badOperator
      else if dialect.isExtended then
        match ← interval dialect rest with
        | some (_, _, rest) =>
          readSequence dialect fuel nested false (reader.movedTo rest)
        | none => goOn (.one (.single '\x7b')) (reader.movedTo rest)
      else goOn (.one (.single '\x7b')) (reader.movedTo rest)
    | (.star, rest) => loose '*' (reader.movedTo rest)
    | (.plus, rest) => loose '+' (reader.movedTo rest)
    | (.question, rest) => loose '?' (reader.movedTo rest)

end

/- Read an expression. -/
def read (dialect : Dialect) (text : List Char) : Except Fault Regex := do
  let (re, _) ← readEither dialect (2 * text.length + 4) 0 ⟨text, 0, []⟩
  .ok re

/- The operator that an expression starts with, if it has no use. -/
def uselessStart? (text : List Char) : Option Char :=
  match text.dropWhile (fun c => c == '^' || c == '(') with
  | '*' :: _ => some '*'
  | '+' :: _ => some '+'
  | '?' :: _ => some '?'
  | _ => none

end Regex

end TreeLint
