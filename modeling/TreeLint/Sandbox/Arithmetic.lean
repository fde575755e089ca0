import TreeLint.Text.Numeral

/-
  Arithmetic of the shell.

  Key definitions include:
    * `Arithmetic.tokens`
    * `Arithmetic.Store`
    * `Arithmetic.evaluate`

  Expressions are over integers of 64 bits, with the operators
  and the precedence of the language C.  A variable that is
  not set counts as zero.  Assignments are remembered in the
  order in which they are made; those in a branch that is not
  taken are not made at all.
-/

------------------------------------------------------------
-- Tokens
------------------------------------------------------------

namespace TreeLint

namespace Sandbox

namespace Arithmetic

/- A token of an expression. -/
inductive Token where
  | number (n : Int)
  | name (text : String)
  | operator (text : String)
  /- A character that no token starts with. -/
  | stray
deriving DecidableEq

/- The operators, longer ones first. -/
def operators : List String :=
  ["<<=", ">>=", "<=", ">=", "==", "!=", "&&", "||", "<<", ">>", "+=",
    "-=", "*=", "/=", "%=", "&=", "^=", "|=", "+", "-", "*", "/", "%",
    "<", ">", "!", "~", "&", "|", "^", "?", ":", "(", ")", "="]

/- Characters of a name. -/
def isNameChar (c : Char) : Bool :=
  c.isAlphanum || c == '_'

/- Keep what fits into 64 bits with a sign. -/
def wrapped (n : Int) : Int :=
  Int.bmod n (Nat.pow 2 64)

/- The largest and the smallest number of 64 bits. -/
def clamped (n : Int) : Int :=
  let limit := Int.ofNat (Nat.pow 2 63)
  min (limit - 1) (max (-limit) n)

/- The number at the start of a text, and what follows it. -/
def literal (text : List Char) : Int × List Char :=
  let (base, digits) : Nat × List Char := match text with
    | '0' :: 'x' :: c :: rest =>
      if (Numeral.digit? 16 c).isSome then (16, c :: rest) else (8, text)
    | '0' :: 'X' :: c :: rest =>
      if (Numeral.digit? 16 c).isSome then (16, c :: rest) else (8, text)
    | '0' :: _ => (8, text)
    | _ => (10, text)
  let isDigit (c : Char) : Bool := (Numeral.digit? base c).isSome
  let run := digits.takeWhile isDigit
  (clamped (Int.ofNat ((Numeral.natural? base run).getD 0)),
    digits.dropWhile isDigit)

/- The tokens of a text. -/
def tokensFrom : Nat → List Char → List Token
  | 0, _ => []
  | _ + 1, [] => []
  | fuel + 1, c :: rest =>
    if c == ' ' || c == '\t' || c == '\n' then
      tokensFrom fuel rest
    else if Numeral.isDigit c then
      let (n, behind) := literal (c :: rest)
      .number n :: tokensFrom fuel behind
    else if isNameChar c then
      .name (String.ofList ((c :: rest).takeWhile isNameChar))
        :: tokensFrom fuel ((c :: rest).dropWhile isNameChar)
    else
      match operators.find? (fun op => op.toList.isPrefixOf (c :: rest)) with
      | some op => .operator op :: tokensFrom fuel ((c :: rest).drop op.length)
      | none => [.stray]

/- The tokens of a text. -/
def tokens (text : List Char) : List Token :=
  tokensFrom (text.length + 1) text

------------------------------------------------------------
-- Operators
------------------------------------------------------------

/- A truth value as a number. -/
def truth (b : Bool) : Int :=
  if b then 1 else 0

/- How tightly a binary operator binds. -/
def level? (op : String) : Option Nat :=
  if op == "||" then some 1
  else if op == "&&" then some 2
  else if op == "|" then some 3
  else if op == "^" then some 4
  else if op == "&" then some 5
  else if op == "==" || op == "!=" then some 6
  else if op == "<" || op == ">" || op == "<=" || op == ">=" then some 7
  else if op == "<<" || op == ">>" then some 8
  else if op == "+" || op == "-" then some 9
  else if op == "*" || op == "/" || op == "%" then some 10
  else none

/- Combine the bits of two numbers. -/
def bitwise (f : Nat → Nat → Nat) (a b : Int) : Int :=
  let size := Int.ofNat (Nat.pow 2 64)
  wrapped (Int.ofNat (f (a.emod size).toNat (b.emod size).toNat))

/- The value of a binary operator. -/
def combine (op : String) (a b : Int) : Except String Int :=
  let factor := Int.ofNat (Nat.pow 2 (b.emod 64).toNat)
  if op == "|" then .ok (bitwise (· ||| ·) a b)
  else if op == "^" then .ok (bitwise (· ^^^ ·) a b)
  else if op == "&" then .ok (bitwise (· &&& ·) a b)
  else if op == "==" then .ok (truth (a == b))
  else if op == "!=" then .ok (truth (a != b))
  else if op == "<" then .ok (truth (a < b))
  else if op == ">" then .ok (truth (a > b))
  else if op == "<=" then .ok (truth (a ≤ b))
  else if op == ">=" then .ok (truth (a ≥ b))
  else if op == "<<" then .ok (wrapped (a * factor))
  else if op == ">>" then .ok (Int.fdiv a factor)
  else if op == "+" then .ok (wrapped (a + b))
  else if op == "-" then .ok (wrapped (a - b))
  else if op == "*" then .ok (wrapped (a * b))
  else if b == 0 then .error "division by zero"
  else if op == "/" then .ok (wrapped (Int.tdiv a b))
  else .ok (wrapped (Int.tmod a b))

/- The operator in front of an equals sign. -/
def assigning? (op : String) : Option String :=
  if ["+=", "-=", "*=", "/=", "%=", "<<=", ">>=", "&=", "^=",
      "|="].contains op then
    some (String.ofList op.toList.dropLast)
  else
    none

------------------------------------------------------------
-- Evaluation
------------------------------------------------------------

/- What variables are set to, and what was assigned to them. -/
structure Store where
  valueOf? : String → Option String
  /- The newest assignment first. -/
  assigned : List (String × Int)

/- A failure: wrong numbers are told apart from wrong expressions. -/
inductive Failure where
  | expression (why : String)
  | number (text : String)
deriving DecidableEq

/- The number that a variable stands for. -/
def Store.read (store : Store) (name : String) : Except Failure Int :=
  match store.assigned.lookup name with
  | some n => .ok n
  | none =>
    let value := (store.valueOf? name).getD ""
    let isSpace (c : Char) : Bool :=
      c == ' ' || (9 ≤ c.toNat && c.toNat ≤ 13)
    let text := value.toList.dropWhile isSpace
    let (sign, text) : Int × List Char := match text with
      | '-' :: rest => (-1, rest)
      | '+' :: rest => (1, rest)
      | text => (1, text)
    let (n, behind) := literal text
    if behind.all isSpace && (text.head?.all Numeral.isDigit) then
      .ok (sign * n)
    else
      .error (.number value)

/- Where the evaluation of an expression has come to. -/
structure State where
  tokens : List Token
  store : Store

/- Fail with a reason. -/
def fail {α : Type} (why : String) : Except Failure α :=
  .error (.expression why)

mutual

/- An assignment or an expression with a condition. -/
def whole (isDead : Bool) :
    Nat → State → Except Failure (Int × State)
  | 0, _ => fail "expecting primary"
  | fuel + 1, state =>
    match state.tokens with
    | .name name :: .operator op :: rest =>
      if op == "=" || (assigning? op).isSome then do
        let (n, state) ← whole isDead fuel { state with tokens := rest }
        if isDead then
          return (n, state)
        else
          let n ← match assigning? op with
            | none => .ok n
            | some op => do
              let old ← state.store.read name
              match combine op old n with
              | .ok n => .ok n
              | .error why => fail why
          return (n,
            { state with
              store.assigned := (name, n) :: state.store.assigned })
      else
        conditional isDead fuel state
    | _ => conditional isDead fuel state

/- An expression that may be one of two by a condition. -/
def conditional (isDead : Bool) :
    Nat → State → Except Failure (Int × State)
  | 0, _ => fail "expecting primary"
  | fuel + 1, state => do
    let (a, state) ← binary isDead fuel 1 state
    match state.tokens with
    | .operator "?" :: rest =>
      let (b, state) ← whole (isDead || a == 0) fuel
        { state with tokens := rest }
      match state.tokens with
      | .operator ":" :: rest =>
        let (c, state) ← conditional (isDead || a != 0) fuel
          { state with tokens := rest }
        return (if a != 0 then b else c, state)
      | _ => fail "expecting ':'"
    | _ => return (a, state)

/- An expression with operators of a level at least. -/
def binary (isDead : Bool) :
    Nat → Nat → State → Except Failure (Int × State)
  | 0, _, _ => fail "expecting primary"
  | fuel + 1, level, state => do
    let (a, state) ← unary isDead fuel state
    operatorsBehind isDead fuel level a state

/- Operators behind an operand that is known. -/
def operatorsBehind (isDead : Bool) :
    Nat → Nat → Int → State → Except Failure (Int × State)
  | 0, _, _, _ => fail "expecting primary"
  | fuel + 1, level, a, state =>
    match state.tokens with
    | .operator op :: rest =>
      match level? op with
      | none => .ok (a, state)
      | some binding =>
        if binding < level then
          .ok (a, state)
        else do
          let skips := (op == "&&" && a == 0) || (op == "||" && a != 0)
          let (b, state) ← binary (isDead || skips) fuel (binding + 1)
            { state with tokens := rest }
          if op == "||" then
            operatorsBehind isDead fuel level (truth (a != 0 || b != 0)) state
          else if op == "&&" then
            operatorsBehind isDead fuel level (truth (a != 0 && b != 0)) state
          else if isDead then
            operatorsBehind isDead fuel level b state
          else
            match combine op a b with
            | .ok c => operatorsBehind isDead fuel level c state
            | .error why => fail why
    | _ => .ok (a, state)

/- An operand with the signs in front of it. -/
def unary (isDead : Bool) :
    Nat → State → Except Failure (Int × State)
  | 0, _ => fail "expecting primary"
  | fuel + 1, state =>
    match state.tokens with
    | .number n :: rest => .ok (n, { state with tokens := rest })
    | .name name :: rest => do
      let n ← if isDead then .ok 0 else state.store.read name
      return (n, { state with tokens := rest })
    | .operator "(" :: rest => do
      let (n, state) ← whole isDead fuel { state with tokens := rest }
      match state.tokens with
      | .operator ")" :: rest => return (n, { state with tokens := rest })
      | _ => fail "expecting ')'"
    | .operator op :: rest =>
      let signed (f : Int → Int) : Except Failure (Int × State) := do
        let (n, state) ← unary isDead fuel { state with tokens := rest }
        return (f n, state)
      if op == "-" then signed (fun n => wrapped (-n))
      else if op == "+" then signed id
      else if op == "!" then signed (fun n => truth (n == 0))
      else if op == "~" then signed (fun n => -n - 1)
      else fail "expecting primary"
    | _ => fail "expecting primary"

end

/- The value of an expression, with the assignments it makes. -/
def evaluate (valueOf? : String → Option String) (text : List Char) :
    Except Failure (Int × List (String × Int)) := do
  let tokens := tokens text
  let (n, state) ← whole false (8 * tokens.length + 16)
    ⟨tokens, ⟨valueOf?, []⟩⟩
  if state.tokens.isEmpty then return (n, state.store.assigned)
  else fail "expecting EOF"

end Arithmetic

end Sandbox

end TreeLint
