import TreeLint.Sandbox.Script

/-
  Reading the commands of a script.

  Key definitions include:
    * `Grammar.Problem`
    * `Grammar.Input`
    * `Grammar.command`
    * `Grammar.next`

  A script is read one line of commands at a time, so what
  stands above a mistake has been carried out when the
  mistake is found.  A mistake is told by the token at which
  it is noticed, and by the one that could have come instead.
-/

------------------------------------------------------------
-- Problems
------------------------------------------------------------

namespace TreeLint

namespace Sandbox

namespace Grammar

open Script

/- What is wrong with a script, and on which line. -/
structure Problem where
  line : Nat
  text : String
deriving DecidableEq, Repr

/- The tokens still to be read, and the texts for them. -/
structure Input where
  tokens : List Token
  texts : List (Bool × RawWord)

/- The words that have a meaning where a command may start. -/
def keywords : List String :=
  ["!", "case", "do", "done", "elif", "else", "esac", "fi", "for", "if",
    "in", "then", "until", "while", "\x7b", "\x7d"]

/- The words and operators that end a list of commands. -/
def closers : List String :=
  [")", ";;", "do", "done", "elif", "else", "esac", "fi", "then", "\x7d"]

/- Built-in commands that no function can replace. -/
def specialBuiltins : List String :=
  [".", ":", "break", "continue", "eval", "exec", "exit", "export",
    "readonly", "return", "set", "shift", "times", "trap", "unset"]

namespace Input

/- The token that comes. -/
def token (input : Input) : Token :=
  input.tokens.head?.getD ⟨1, .finish⟩

/- The symbol that comes. -/
def symbol (input : Input) : Symbol :=
  input.token.symbol

/- The line of the token that comes. -/
def line (input : Input) : Nat :=
  input.token.line

/- The input behind its first token. -/
def next (input : Input) : Input :=
  { input with tokens := input.tokens.drop 1 }

/- Pass over ends of lines. -/
def skipLines (input : Input) : Input :=
  { input with
    tokens := input.tokens.dropWhile
      (fun token => token.symbol == .operator "\n") }

/- Whether an operator comes. -/
def startsWith (input : Input) (op : String) : Bool :=
  input.symbol == .operator op

/- Whether a word comes that is written just so. -/
def startsWithWord (input : Input) (word : String) : Bool :=
  input.symbol == .word word.toList

/- Whether something comes that ends a list of commands. -/
def isClosing (input : Input) : Bool :=
  match input.symbol with
  | .word raw => closers.contains (String.ofList raw)
  | .operator op => closers.contains op
  | _ => false

/- The name of the token that comes, as problems tell it. -/
def name (input : Input) (asKeyword : Bool) : String :=
  match input.symbol with
  | .word raw =>
    let text := String.ofList raw
    if asKeyword && keywords.contains text then "\"" ++ text ++ "\""
    else "word"
  | .operator "\n" => "newline"
  | .operator op =>
    if op.startsWith "<" || op.startsWith ">" then "redirection"
    else "\"" ++ op ++ "\""
  | .stream _ => "redirection"
  | .text _ _ => "word"
  | .finish => "end of file"
  | .flaw why => why

/- The problem with the token that comes. -/
def problem (input : Input) (asKeyword : Bool) (expected : String) :
    Problem :=
  match input.symbol with
  | .flaw why => ⟨input.line, why⟩
  | _ =>
    ⟨input.line, input.name asKeyword ++ " unexpected"
      ++ (if expected.isEmpty then ""
          else " (expecting \"" ++ expected ++ "\")")⟩

/- Fail because of the token that comes. -/
def reject {α : Type} (input : Input) : Except Problem (α × Input) :=
  .error (input.problem true "")

/- Pass over a keyword that must come. -/
def expect (input : Input) (word : String) : Except Problem Input :=
  if input.startsWithWord word then .ok input.next
  else .error (input.problem true word)

/- Pass over an operator that must come. -/
def expectOperator (input : Input) (op : String) : Except Problem Input :=
  if input.startsWith op then .ok input.next
  else .error (input.problem true op)

end Input

------------------------------------------------------------
-- Parts Of Commands
------------------------------------------------------------

/- The direction of a redirection operator. -/
def direction? (op : String) : Option Direction :=
  if op == "<" || op == "<>" then some .read
  else if op == ">" then some .write
  else if op == ">|" then some .overwrite
  else if op == ">>" then some .append
  else if op == "<&" || op == ">&" then some .duplicate
  else none

/- The stream that an operator redirects by default. -/
def defaultStream (op : String) : Nat :=
  if op.startsWith "<" then 0 else 1

/- Whether a redirection comes. -/
def Input.isRedirection (input : Input) : Bool :=
  match input.symbol with
  | .stream _ => true
  | .operator op => op == "<<" || (direction? op).isSome
  | _ => false

/- The redirection that comes. -/
def redirection (input : Input) : Except Problem (Redirection × Input) :=
  let (stream?, input) := match input.symbol with
    | .stream n => (some n, input.next)
    | _ => (none, input)
  match input.symbol with
  | .operator op =>
    match input.next.symbol with
    | .word raw =>
      let behind := input.next.next
      if op == "<<" then
        match behind.texts with
        | (quoted, text) :: texts =>
          .ok (⟨stream?.getD 0, .here quoted, text⟩, { behind with texts })
        | [] => .ok (⟨stream?.getD 0, .here true, []⟩, behind)
      else
        match direction? op with
        | some direction =>
          .ok (⟨stream?.getD (defaultStream op), direction, raw⟩, behind)
        | none => input.reject
    | _ => .error (input.next.problem false "")
  | _ => input.reject

/- Redirections behind a command. -/
def redirections : Nat → Input → Except Problem (List Redirection × Input)
  | 0, input => .ok ([], input)
  | fuel + 1, input =>
    if input.isRedirection then do
      let (r, input) ← redirection input
      let (rs, input) ← redirections fuel input
      return (r :: rs, input)
    else
      .ok ([], input)

/- Words and redirections of a simple command. -/
structure Simple where
  words : List RawWord
  redirections : List Redirection

/- The words and redirections of a simple command. -/
def simple : Nat → Input → Except Problem (Simple × Input)
  | 0, input => .ok (⟨[], []⟩, input)
  | fuel + 1, input =>
    match input.symbol with
    | .word raw => do
      let (parts, input) ← simple fuel input.next
      return ({ parts with words := raw :: parts.words }, input)
    | _ =>
      if input.isRedirection then do
        let (r, input) ← redirection input
        let (parts, input) ← simple fuel input
        return ({ parts with redirections := r :: parts.redirections },
          input)
      else
        .ok (⟨[], []⟩, input)

/- Words up to something else. -/
def wordsUntil : Nat → Input → List RawWord × Input
  | 0, input => ([], input)
  | fuel + 1, input =>
    match input.symbol with
    | .word raw =>
      let (words, input) := wordsUntil fuel input.next
      (raw :: words, input)
    | _ => ([], input)

/- The patterns of a case. -/
def patterns : Nat → Input → Except Problem (List RawWord × Input)
  | 0, input => .ok ([], input)
  | fuel + 1, input =>
    match input.symbol with
    | .word raw =>
      if input.next.startsWith "|" then do
        let (raws, input) ← patterns fuel input.next.next
        return (raw :: raws, input)
      else
        .ok ([raw], input.next)
    | _ => .error (input.problem false ")")

------------------------------------------------------------
-- Commands
------------------------------------------------------------

mutual

/-
  A list of commands inside of another one.  It holds one
  command at least, unless it may be empty.
-/
def list : Nat → Bool → Input → Except Problem (List Script × Input)
  | 0, _, input => input.reject
  | fuel + 1, mayEnd, input =>
    let input := input.skipLines
    if input.symbol == .finish || (mayEnd && input.isClosing) then
      .ok ([], input)
    else do
      let (command, input) ← andOr fuel input
      if input.startsWith "&" then
        let (commands, input) ← list fuel true input.next
        return (.background command :: commands, input)
      else if input.startsWith ";" || input.startsWith "\n" then
        let (commands, input) ← list fuel true input.next
        return (command :: commands, input)
      else
        return ([command], input)

/- Commands joined by the operators for success and failure. -/
def andOr : Nat → Input → Except Problem (Script × Input)
  | 0, input => input.reject
  | fuel + 1, input => do
    let (first, input) ← pipeline fuel input
    joined fuel first input

/- What is joined to a command that is known. -/
def joined : Nat → Script → Input → Except Problem (Script × Input)
  | 0, _, input => input.reject
  | fuel + 1, first, input =>
    if input.startsWith "&&" then do
      let (second, input) ← pipeline fuel input.next.skipLines
      joined fuel (.andThen first second) input
    else if input.startsWith "||" then do
      let (second, input) ← pipeline fuel input.next.skipLines
      joined fuel (.orElse first second) input
    else
      .ok (first, input)

/- Commands in a row, whose result may be turned around. -/
def pipeline : Nat → Input → Except Problem (Script × Input)
  | 0, input => input.reject
  | fuel + 1, input =>
    if input.startsWithWord "!" then do
      let (command, input) ← piped fuel input.next
      return (.negate command, input)
    else
      piped fuel input

/- Commands of which each reads what the one before it prints. -/
def piped : Nat → Input → Except Problem (Script × Input)
  | 0, input => input.reject
  | fuel + 1, input => do
    let (first, input) ← command fuel input
    if input.startsWith "|" then
      let (second, input) ← piped fuel input.next.skipLines
      return (.pipe first second, input)
    else
      return (first, input)

/- A block of commands. -/
def block : Nat → Bool → Input → Except Problem (Script × Input)
  | 0, _, input => input.reject
  | fuel + 1, mayEnd, input => do
    let (commands, input) ← list fuel mayEnd input
    return (.block commands, input)

/- The branches behind a condition word. -/
def branches : Nat → Input → Except Problem (Script × Input)
  | 0, input => input.reject
  | fuel + 1, input => do
    let (condition, input) ← block fuel false input
    let input ← input.expect "then"
    let (yes, input) ← block fuel false input
    if input.startsWithWord "elif" then
      let (no, input) ← branches fuel input.next
      return (.branch condition yes no, input)
    else if input.startsWithWord "else" then
      let (no, input) ← block fuel false input.next
      let input ← input.expect "fi"
      return (.branch condition yes no, input)
    else
      let input ← input.expect "fi"
      return (.branch condition yes .nothing, input)

/- The body of a loop. -/
def body : Nat → Input → Except Problem (Script × Input)
  | 0, input => input.reject
  | fuel + 1, input => do
    let input ← input.expect "do"
    let (body, input) ← block fuel false input
    let input ← input.expect "done"
    return (body, input)

/- The cases of a choice. -/
def cases : Nat → Input →
    Except Problem (List (List RawWord × Script) × Input)
  | 0, input => input.reject
  | fuel + 1, input =>
    let input := input.skipLines
    if input.startsWithWord "esac" then
      .ok ([], input.next)
    else do
      let input := if input.startsWith "(" then input.next else input
      let (raws, input) ← patterns (input.tokens.length + 1) input
      let input ← if input.startsWith ")" then .ok input.next
        else .error (input.problem false ")")
      let (body, input) ← block fuel true input
      let input := input.skipLines
      if input.startsWithWord "esac" then
        return ([(raws, body)], input.next)
      else
        let input ← input.expectOperator ";;"
        let (cases, input) ← cases fuel input
        return ((raws, body) :: cases, input)

/- A command with the redirections behind it. -/
def redirected : Nat → Nat → Script → Input →
    Except Problem (Script × Input)
  | 0, _, _, input => input.reject
  | fuel + 1, line, command, input => do
    match ← redirections (fuel + 1) input with
    | ([], input) => return (command, input)
    | (rs, input) => return (.redirect line command rs, input)

/- The definition of a function, behind its name. -/
def definition : Nat → RawWord → Input → Except Problem (Script × Input)
  | 0, _, input => input.reject
  | fuel + 1, name, input => do
    let input ← if input.startsWith ")" then .ok input.next
      else .error (input.problem false ")")
    if !isName name || specialBuiltins.contains (String.ofList name) then
      .error ⟨input.line, "Bad function name"⟩
    else
      let (body, input) ← command fuel input.skipLines
      return (.define (String.ofList name) body, input)

/- A loop over words, behind its first keyword. -/
def each : Nat → Nat → Input → Except Problem (Script × Input)
  | 0, _, input => input.reject
  | fuel + 1, line, input =>
    match input.symbol with
    | .word name =>
      if !isName name then
        .error ⟨input.line, "Bad for loop variable"⟩
      else do
        let input := input.next.skipLines
        let (words, input) ← if input.startsWithWord "in" then
            let (words, input) :=
              wordsUntil (input.tokens.length + 1) input.next
            if input.startsWith ";" || input.startsWith "\n" then
              .ok (some words, input.next)
            else
              .error (input.problem false "")
          else if input.startsWith ";" then .ok (none, input.next)
          else .ok (none, input)
        let (body, input) ← body fuel input.skipLines
        redirected fuel line (.each (String.ofList name) words body) input
    | .flaw _ => input.reject
    | _ => .error ⟨input.line, "Bad for loop variable"⟩

/- A choice, behind its first keyword. -/
def choice : Nat → Nat → Input → Except Problem (Script × Input)
  | 0, _, input => input.reject
  | fuel + 1, line, input =>
    match input.symbol with
    | .word raw => do
      let input ← input.next.skipLines.expect "in"
      let (cases, input) ← cases fuel input
      redirected fuel line (.choose raw cases) input
    | _ => .error
        { input.problem false "" with
          text := input.name false ++ " unexpected (expecting word)" }

/- One command. -/
def command : Nat → Input → Except Problem (Script × Input)
  | 0, input => input.reject
  | fuel + 1, input =>
    let line := input.line
    if input.startsWith "(" then do
      let (body, input) ← block fuel false input.next
      let input ← input.expectOperator ")"
      redirected fuel line (.subshell body) input
    else if input.startsWithWord "\x7b" then do
      let (body, input) ← block fuel false input.next
      let input ← input.expect "\x7d"
      redirected fuel line body input
    else if input.startsWithWord "if" then do
      let (command, input) ← branches fuel input.next
      redirected fuel line command input
    else if input.startsWithWord "while" then do
      let (condition, input) ← block fuel false input.next
      let (body, input) ← body fuel input
      redirected fuel line (.loop true condition body) input
    else if input.startsWithWord "until" then do
      let (condition, input) ← block fuel false input.next
      let (body, input) ← body fuel input
      redirected fuel line (.loop false condition body) input
    else if input.startsWithWord "for" then
      each fuel line input.next
    else if input.startsWithWord "case" then
      choice fuel line input.next
    else if (match input.symbol with
        | .word raw => keywords.contains (String.ofList raw)
        | _ => !input.isRedirection) then
      input.reject
    else do
      let (parts, behind) ← simple (input.tokens.length + 1) input
      match parts.words, parts.redirections with
      | [name], [] =>
        if behind.startsWith "(" then definition fuel name behind.next
        else return (.simple line parts.words [], behind)
      | words, redirections =>
        return (.simple line words redirections, behind)

end

------------------------------------------------------------
-- Lines
------------------------------------------------------------

/- The commands up to the end of a line. -/
def line (fuel : Nat) : Nat → Input → Except Problem (List Script × Input)
  | 0, input => input.reject
  | commands + 1, input =>
    if input.startsWith "\n" then .ok ([], input.next)
    else if input.symbol == .finish then .ok ([], input)
    else do
      let (first, input) ← andOr fuel input
      if input.startsWith "&" then
        let (others, input) ← line fuel commands input.next
        return (.background first :: others, input)
      else if input.startsWith ";" then
        let (others, input) ← line fuel commands input.next
        return (first :: others, input)
      else if input.startsWith "\n" then return ([first], input.next)
      else if input.symbol == .finish then return ([first], input)
      else input.reject

/- The commands that are written in brackets in a word. -/
def bodies : Nat → RawWord → List RawWord
  | 0, _ => []
  | _ + 1, [] => []
  | fuel + 1, '\\' :: _ :: rest => bodies fuel rest
  | fuel + 1, '\'' :: rest =>
    bodies fuel ((rest.dropWhile (· != '\'')).drop 1)
  | fuel + 1, '"' :: rest =>
    match scanDouble (rest.length + 1) rest with
    | .ok (taken, rest) => inQuotes fuel taken ++ bodies fuel rest
    | .error _ => []
  | fuel + 1, '$' :: '(' :: '(' :: rest => bodies fuel rest
  | fuel + 1, '$' :: '(' :: rest =>
    match scanCommand (rest.length + 1) 0 .command rest with
    | .ok (taken, rest) => taken.dropLast :: bodies fuel rest
    | .error _ => []
  | fuel + 1, _ :: rest => bodies fuel rest
where
  /- The commands in brackets in quotes. -/
  inQuotes : Nat → RawWord → List RawWord
    | 0, _ => []
    | _ + 1, [] => []
    | fuel + 1, '\\' :: _ :: rest => inQuotes fuel rest
    | fuel + 1, '$' :: '(' :: '(' :: rest => inQuotes fuel rest
    | fuel + 1, '$' :: '(' :: rest =>
      match scanCommand (rest.length + 1) 0 .command rest with
      | .ok (taken, rest) => taken.dropLast :: inQuotes fuel rest
      | .error _ => []
    | fuel + 1, _ :: rest => inQuotes fuel rest

/- The input for tokens. -/
def Input.ofTokens (tokens : List Token) : Input where
  tokens := tokens.filter fun token =>
    match token.symbol with
    | .text _ _ => false
    | _ => true
  texts := tokens.filterMap fun token =>
    match token.symbol with
    | .text quoted raw => some (quoted, raw)
    | _ => none

/- The problem with a command that is written in brackets. -/
def innerProblem? : Nat → Nat → List Char → Option Problem
  | 0, _, _ => none
  | fuel + 1, start, text =>
    let tokens := tokens start text
    match list (16 * tokens.length + 32) true (Input.ofTokens tokens) with
    | .error problem =>
      if (problem.text.splitOn "end of file unexpected").length > 1 then
        some { problem with text := "\")\" unexpected" }
      else
        some problem
    | .ok (_, rest) =>
      if rest.symbol != .finish then
        some (rest.problem true ")")
      else
        (tokens.filterMap fun token =>
          match token.symbol with
          | .word raw =>
            (bodies (raw.length + 1) raw).findSome?
              (innerProblem? fuel token.line)
          | _ => none).head?

/-
  The next line of commands; `none` if there is none.  What
  is written in brackets in its words has to be well formed
  as well.
-/
def next (input : Input) : Except Problem (Option Script × Input) := do
  let size := input.tokens.length
  if input.symbol == .finish then
    return (none, input)
  else
    let (commands, rest) ← line (16 * size + 32) (size + 1) input
    let read := input.tokens.take (size - rest.tokens.length)
    let inner? := (read.filterMap fun token =>
      match token.symbol with
      | .word raw =>
        (bodies (raw.length + 1) raw).findSome?
          (innerProblem? (raw.length + 1) token.line)
      | _ => none).head?
    match inner? with
    | some problem => .error problem
    | none => return (some (.block commands), rest)

end Grammar

end Sandbox

end TreeLint
