import TreeLint.Sandbox.World
import TreeLint.Text.Numeral

/-
  Conditions that programs can ask for.

  Key definitions include:
    * `Condition.Operator`
    * `Condition.unary`
    * `Condition.binary`
    * `Condition.evaluate`

  A condition is a list of words: comparisons of texts and of
  numbers, questions about files, and their combinations.  A
  word is an operator only where the words around it let it
  be one.
-/

------------------------------------------------------------
-- Operators
------------------------------------------------------------

namespace TreeLint

namespace Sandbox

namespace Condition

/- The operators of conditions. -/
inductive Operator where
  /- A question about one operand. -/
  | unary
  /- A comparison of two operands. -/
  | binary
  | not
  | and
  | or
  | opening
  | closing
deriving DecidableEq

/- The operator that a word may be. -/
def operator? (word : String) : Option Operator :=
  if ["-r", "-w", "-x", "-e", "-f", "-d", "-c", "-b", "-p", "-u", "-g",
      "-k", "-s", "-t", "-z", "-n", "-h", "-O", "-G", "-L",
      "-S"].contains word then
    some .unary
  else if ["=", "!=", "<", ">", "-eq", "-ne", "-ge", "-gt", "-le", "-lt",
      "-nt", "-ot", "-ef"].contains word then
    some .binary
  else if word == "!" then some .not
  else if word == "-a" then some .and
  else if word == "-o" then some .or
  else if word == "(" then some .opening
  else if word == ")" then some .closing
  else none

/- What a word is in front of other words. -/
inductive Role where
  | operator (op : Operator)
  | operand
  /- There is no word. -/
  | missing
deriving DecidableEq

/- Whether a word that asks about an operand has none. -/
def isAlone : List String → Bool
  | [] => true
  | [_] => false
  | next :: _ => operator? next == some .binary

/- The role of the first word. -/
def role : List String → Role
  | [] => .missing
  | word :: rest =>
    match operator? word with
    | none => .operand
    | some op =>
      if (op == .unary && isAlone rest) || (op == .opening && rest.isEmpty)
      then .operand
      else .operator op

------------------------------------------------------------
-- Single Conditions
------------------------------------------------------------

/- The number that a word has to be. -/
def number (word : String) : Except String Int :=
  let isSpace (c : Char) : Bool :=
    c == ' ' || (9 ≤ c.toNat && c.toNat ≤ 13)
  let text := word.toList.dropWhile isSpace
  let text := (text.reverse.dropWhile isSpace).reverse
  let text := match text with
    | '+' :: rest => if rest.head? == some '-' then text else rest
    | text => text
  match Numeral.signed? text with
  | some n => .ok n
  | none => .error ("Illegal number: " ++ word)

/- A question about a path or a text. -/
def unary (t : FileTree) (cwd : Location) (op operand : String) :
    Except String Bool :=
  let node? := (t.resolved? cwd operand).map Prod.snd
  if op == "-n" then .ok (!operand.isEmpty)
  else if op == "-z" then .ok operand.isEmpty
  else if op == "-t" then (number operand).map fun _ => false
  else if ["-e", "-r", "-w", "-O", "-G"].contains op then .ok node?.isSome
  else if op == "-f" then .ok (t.isFile cwd operand)
  else if op == "-d" then .ok (t.directory? cwd operand).isSome
  else if op == "-p" then .ok (node? == some .pipe)
  else if op == "-s" then
    .ok (match t.read? cwd operand with
      | some content => !content.isEmpty
      | none => node? == some .directory)
  else if op == "-x" then
    .ok (t.isProgram cwd operand || (t.directory? cwd operand).isSome)
  else if op == "-h" || op == "-L" then
    .ok (match t.locateEntry cwd operand with
      | .ok loc =>
        match t.node? loc with
        | some (.link _) => true
        | _ => false
      | .error _ => false)
  else .ok false

/- A comparison of two operands. -/
def binary (t : FileTree) (cwd : Location) (op a b : String) :
    Except String Bool :=
  let numbers (compare : Int → Int → Bool) : Except String Bool := do
    let m ← number a
    let n ← number b
    return compare m n
  let place? (p : Path) : Option Location := (t.locate cwd p).toOption
  if op == "=" then .ok (a == b)
  else if op == "!=" then .ok (a != b)
  else if op == "<" then .ok (decide (a < b))
  else if op == ">" then .ok (decide (b < a))
  else if op == "-eq" then numbers (· == ·)
  else if op == "-ne" then numbers (· != ·)
  else if op == "-lt" then numbers (fun m n => decide (m < n))
  else if op == "-le" then numbers (fun m n => decide (m ≤ n))
  else if op == "-gt" then numbers (fun m n => decide (m > n))
  else if op == "-ge" then numbers (fun m n => decide (m ≥ n))
  else if op == "-ef" then .ok ((place? a).isSome && place? a == place? b)
  else if op == "-nt" || op == "-ot" then
    .ok (match place? a, place? b with
      | some a, some b =>
        if op == "-nt" then (t.stamp a).isLater (t.stamp b)
        else (t.stamp b).isLater (t.stamp a)
      | _, _ => false)
  else .ok false

------------------------------------------------------------
-- Combined Conditions
------------------------------------------------------------

/-
  A result, and the words from the last one on that was looked
  at.
-/
abbrev Found := Except String (Bool × List String)

mutual

/- Conditions of which one has to hold. -/
def any (t : FileTree) (cwd : Location) :
    Nat → List String → Found
  | 0, words => .ok (false, words)
  | fuel + 1, words => do
    let (a, words) ← all t cwd fuel words
    if role (words.drop 1) == .operator .or then
      let (b, words) ← any t cwd fuel (words.drop 2)
      return (a || b, words)
    else
      return (a, words)

/- Conditions that have to hold together. -/
def all (t : FileTree) (cwd : Location) :
    Nat → List String → Found
  | 0, words => .ok (false, words)
  | fuel + 1, words => do
    let (a, words) ← negated t cwd fuel words
    if role (words.drop 1) == .operator .and then
      let (b, words) ← all t cwd fuel (words.drop 2)
      return (a && b, words)
    else
      return (a, words)

/- A condition that may be turned around. -/
def negated (t : FileTree) (cwd : Location) :
    Nat → List String → Found
  | 0, words => .ok (false, words)
  | fuel + 1, words =>
    if role words == .operator .not then do
      let (a, words) ← negated t cwd fuel
        (if words.length == 1 then [] else words.drop 1)
      return (!a, words)
    else
      primary t cwd fuel words

/- A condition without others around it. -/
def primary (t : FileTree) (cwd : Location) :
    Nat → List String → Found
  | 0, words => .ok (false, words)
  | fuel + 1, words =>
    match role words, words with
    | .missing, _ => .ok (false, words)
    | .operator .opening, _ :: rest =>
      if role rest == .operator .closing then
        .ok (false, rest)
      else do
        let (a, words) ← any t cwd fuel rest
        if role (words.drop 1) == .operator .closing then
          return (a, words.drop 1)
        else
          .error "closing paren expected"
    | .operator .unary, op :: rest =>
      match rest with
      | [] => .error (op ++ ": argument expected")
      | operand :: _ => (unary t cwd op operand).map (·, rest)
    | _, a :: op :: rest =>
      if role (op :: rest) == .operator .binary then
        match rest with
        | [] => .error (op ++ ": argument expected")
        | b :: _ => (binary t cwd op a b).map (·, rest)
      else
        .ok (!a.isEmpty, words)
    | _, [a] => .ok (!a.isEmpty, words)
    | _, [] => .ok (false, words)

end

/- The value of a condition, or what is wrong with it. -/
def evaluate (t : FileTree) (cwd : Location) :
    Nat → List String → Except String Bool
  | 0, _ => .ok false
  | fuel + 1, words =>
    let whole : Except String Bool := do
      let (a, rest) ← any t cwd (4 * words.length + 8) words
      match rest with
      | last :: _ :: _ => .error (last ++ ": unexpected operator")
      | _ => return a
    match words with
    | [] => .ok false
    | [a, op, b] =>
      if operator? op == some .binary then binary t cwd op a b
      else if a == "(" && b == ")" then
        (any t cwd 16 [op]).map Prod.fst
      else if a == "!" then (evaluate t cwd fuel [op, b]).map (!·)
      else whole
    | [a, b, c, d] =>
      if a == "(" && d == ")" then do
        let (result, rest) ← any t cwd 16 [b, c]
        match rest with
        | last :: _ :: _ => .error (last ++ ": unexpected operator")
        | _ => return result
      else if a == "!" then (evaluate t cwd fuel [b, c, d]).map (!·)
      else whole
    | _ => whole

end Condition

end Sandbox

end TreeLint
