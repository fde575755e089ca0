import TreeLint.Text.Numeral

/-
  Scripts of the shell, and the tokens they are written in.

  Key definitions include:
    * `Script`
    * `Script.scanWord`
    * `Script.Token`
    * `Script.tokens`

  A script is first cut into words and operators.  A word is
  kept as it was written, with its quotes and dollar signs;
  it gets its meaning when the command that holds it is
  carried out.  A text that cannot be cut any further ends in
  a token that says why.
-/

------------------------------------------------------------
-- Scripts
------------------------------------------------------------

namespace TreeLint

namespace Sandbox

/- A word as written. -/
abbrev RawWord := List Char

/- What a redirection does with a file or a stream. -/
inductive Direction where
  | read
  | write
  /- Write even where files are not to be replaced. -/
  | overwrite
  | append
  | duplicate
  /- The text itself follows; it is quoted or not. -/
  | here (quoted : Bool)
deriving DecidableEq

/- A redirection of a stream. -/
structure Redirection where
  stream : Nat
  direction : Direction
  word : RawWord

/- A command of the shell. -/
inductive Script where
  | nothing
  | simple
    (line : Nat)
    (words : List RawWord)
    (redirections : List Redirection)
  | block (commands : List Script)
  | andThen (first second : Script)
  | orElse (first second : Script)
  | negate (command : Script)
  | background (command : Script)
  | pipe (first second : Script)
  | branch (condition yes no : Script)
  | loop (expected : Bool) (condition body : Script)
  | each (name : String) (words : Option (List RawWord)) (body : Script)
  | choose (word : RawWord) (cases : List (List RawWord × Script))
  | subshell (command : Script)
  | redirect
    (line : Nat) (command : Script) (redirections : List Redirection)
  | define (name : String) (body : Script)
deriving Inhabited

namespace Script

------------------------------------------------------------
-- Scanning
------------------------------------------------------------

/- Characters that end a word outside quotes. -/
def endsWord (c : Char) : Bool :=
  " \t\n;&|<>()".toList.contains c

/- Characters of names. -/
def isNameChar (c : Char) : Bool :=
  c.isAlphanum || c == '_'

/- Whether a text can be the name of a variable or a function. -/
def isName (raw : RawWord) : Bool :=
  match raw with
  | c :: rest => (c.isAlpha || c == '_') && rest.all isNameChar
  | [] => false

/- What was taken and what is left, or why nothing can be taken. -/
abbrev Scanned := Except String (List Char × List Char)

/- Put characters in front of what was scanned. -/
def ahead (front : List Char) (scanned : Scanned) : Scanned :=
  scanned.map (fun (taken, rest) => (front ++ taken, rest))

/- What is wrong with quotes that are not closed. -/
def openQuotes : String := "Unterminated quoted string"

/- What is wrong with braces that are not closed. -/
def openBraces : String := "Missing '\x7d'"

/- What is wrong with arithmetic that is not closed. -/
def openArithmetic : String := "Missing '))'"

/- What is wrong with a command in brackets that are not closed. -/
def openCommand : String :=
  "end of file unexpected (expecting \")\")"

/- What is wrong with a command in back quotes that are not closed. -/
def openBack : String := "EOF in backquote substitution"

/- Up to and with a closing quote, nothing inside counting. -/
def scanSingle : List Char → Scanned
  | [] => .error openQuotes
  | '\'' :: rest => .ok (['\''], rest)
  | c :: rest => ahead [c] (scanSingle rest)

/- Up to and with the closing back quote. -/
def scanBack : Nat → List Char → Scanned
  | 0, _ => .error openBack
  | _ + 1, [] => .error openBack
  | _ + 1, '\x60' :: rest => .ok (['\x60'], rest)
  | fuel + 1, '\\' :: c :: rest => ahead ['\\', c] (scanBack fuel rest)
  | fuel + 1, c :: rest => ahead [c] (scanBack fuel rest)

/-
  Whether quotes of one stroke have a meaning in braces that
  are themselves in quotes: they have one in patterns only.
-/
def isCutting (text : List Char) : Bool :=
  match (text.drop 1).dropWhile isNameChar with
  | '#' :: _ => true
  | '%' :: _ => true
  | _ => false

/- Words behind which another command may start. -/
def openers : List String :=
  ["then", "do", "else", "elif", "if", "while", "until", "\x7b", "!"]

/- What may start at a place in a script. -/
inductive Start where
  | command
  | word
  | nothing
deriving DecidableEq

mutual

/- Up to and with the end of double quotes. -/
def scanDouble : Nat → List Char → Scanned
  | 0, _ => .error openQuotes
  | _ + 1, [] => .error openQuotes
  | _ + 1, '"' :: rest => .ok (['"'], rest)
  | fuel + 1, '\\' :: c :: rest => ahead ['\\', c] (scanDouble fuel rest)
  | fuel + 1, '$' :: rest =>
    match scanDollar fuel true rest with
    | .error why => .error why
    | .ok (taken, rest) => ahead ('$' :: taken) (scanDouble fuel rest)
  | fuel + 1, '\x60' :: rest =>
    match scanBack fuel rest with
    | .error why => .error why
    | .ok (taken, rest) => ahead ('\x60' :: taken) (scanDouble fuel rest)
  | fuel + 1, c :: rest => ahead [c] (scanDouble fuel rest)

/- Brackets behind a dollar sign, or nothing. -/
def scanDollar : Nat → Bool → List Char → Scanned
  | 0, _, _ => .error openQuotes
  | fuel + 1, _, '(' :: '(' :: rest =>
    ahead ['(', '('] (scanArithmetic fuel 0 rest)
  | fuel + 1, _, '(' :: rest =>
    ahead ['('] (scanCommand fuel 0 .command rest)
  | fuel + 1, quotes, '\x7b' :: rest =>
    ahead ['\x7b'] (scanBraces fuel quotes (quotes && !isCutting rest) rest)
  | _ + 1, _, rest => .ok ([], rest)

/- Up to and with a closing brace, over what is nested. -/
def scanBraces : Nat → Bool → Bool → List Char → Scanned
  | 0, quotes, _, _ => .error (if quotes then openQuotes else openBraces)
  | _ + 1, quotes, _, [] =>
    .error (if quotes then openQuotes else openBraces)
  | fuel + 1, quotes, plain, c :: rest =>
    if c == '\x7d' then
      .ok ([c], rest)
    else
      let inner : Scanned :=
        if c == '\\' then .ok (rest.take 1, rest.drop 1)
        else if c == '\'' && !plain then scanSingle rest
        else if c == '"' then scanDouble fuel rest
        else if c == '$' then scanDollar fuel quotes rest
        else if c == '\x60' then scanBack fuel rest
        else .ok ([], rest)
      match inner with
      | .error why => .error why
      | .ok (taken, rest) =>
        ahead (c :: taken) (scanBraces fuel quotes plain rest)

/- Up to and with the closing brackets of arithmetic. -/
def scanArithmetic : Nat → Nat → List Char → Scanned
  | 0, _, _ => .error openArithmetic
  | _ + 1, _, [] => .error openArithmetic
  | fuel + 1, depth, c :: rest =>
    if c == '(' then ahead [c] (scanArithmetic fuel (depth + 1) rest)
    else if c == ')' then
      match depth, rest with
      | 0, ')' :: rest => .ok ([')', ')'], rest)
      | depth, rest => ahead [c] (scanArithmetic fuel (depth - 1) rest)
    else
      let inner : Scanned :=
        if c == '\\' then .ok (rest.take 1, rest.drop 1)
        else if c == '$' then scanDollar fuel true rest
        else if c == '\x60' then scanBack fuel rest
        else .ok ([], rest)
      match inner with
      | .error why => .error why
      | .ok (taken, rest) =>
        ahead (c :: taken) (scanArithmetic fuel depth rest)

/-
  Up to and with the bracket that closes a command.  Brackets
  that only end the patterns of a choice do not count.
-/
def scanCommand : Nat → Nat → Start → List Char → Scanned
  | 0, _, _, _ => .error openCommand
  | _ + 1, _, _, [] => .error openCommand
  | fuel + 1, cases, start, c :: rest =>
    let on (front : List Char) (cases : Nat) (start : Start)
        (rest : List Char) : Scanned :=
      ahead front (scanCommand fuel cases start rest)
    if c == ')' then
      if cases == 0 then .ok ([c], rest)
      else on [c] cases .command rest
    else if c == ' ' || c == '\t' then
      on [c] cases (if start == .nothing then .word else start) rest
    else if c == '\n' || c == ';' || c == '&' || c == '|' then
      on [c] cases .command rest
    else if c == '#' && start != .nothing then
      let comment := rest.takeWhile (· != '\n')
      on (c :: comment) cases start (rest.drop comment.length)
    else if c == '(' then
      match scanCommand fuel 0 .command rest with
      | .error why => .error why
      | .ok (taken, rest) => on (c :: taken) cases .nothing rest
    else if c.isAlpha && start == .command then
      let word := c :: rest.takeWhile isNameChar
      let behind := rest.drop (word.length - 1)
      let text := String.ofList word
      if !(behind.head?.map endsWord).getD true then
        on word cases .nothing behind
      else if text == "case" then on word (cases + 1) .nothing behind
      else if text == "esac" then on word (cases - 1) .nothing behind
      else if openers.contains text then on word cases .command behind
      else on word cases .nothing behind
    else
      let inner : Scanned :=
        if c == '\\' then .ok (rest.take 1, rest.drop 1)
        else if c == '\'' then scanSingle rest
        else if c == '"' then scanDouble fuel rest
        else if c == '$' then scanDollar fuel false rest
        else if c == '\x60' then scanBack fuel rest
        else .ok ([], rest)
      match inner with
      | .error why => .error why
      | .ok (taken, rest) =>
        on (c :: taken) cases
          (if c == '\x7b' || c == '!' then start else .nothing) rest

end

/- A word and what follows it. -/
def scanWord : Nat → List Char → Except String (RawWord × List Char)
  | 0, _ => .error openQuotes
  | _ + 1, [] => .ok ([], [])
  | fuel + 1, c :: rest =>
    if endsWord c then
      .ok ([], c :: rest)
    else if c == '\\' then
      match rest with
      | '\n' :: rest => scanWord fuel rest
      | d :: rest => ahead [c, d] (scanWord fuel rest)
      | [] => .ok ([c], [])
    else
      let inner : Scanned :=
        if c == '\'' then scanSingle rest
        else if c == '"' then scanDouble fuel rest
        else if c == '$' then scanDollar fuel false rest
        else if c == '\x60' then scanBack fuel rest
        else .ok ([], rest)
      match inner with
      | .error why => .error why
      | .ok (taken, rest) => ahead (c :: taken) (scanWord fuel rest)

------------------------------------------------------------
-- Tokens
------------------------------------------------------------

/- A word, an operator, or the end of a text. -/
inductive Symbol where
  | word (raw : RawWord)
  | operator (text : String)
  /- A stream that the redirection behind it is about. -/
  | stream (n : Nat)
  /- A text that was written below the line. -/
  | text (quoted : Bool) (raw : RawWord)
  | finish
  /- The rest of the text cannot be read. -/
  | flaw (why : String)
deriving DecidableEq

/- A symbol, and the line at its end. -/
structure Token where
  line : Nat
  symbol : Symbol
deriving DecidableEq

/- The operators, longer ones first. -/
def operators : List String :=
  ["<<-", "&&", "||", ";;", "<<", ">>", "<&", ">&", ">|", "<>",
    ";", "&", "|", "<", ">", "(", ")"]

/- The operator that a text starts with. -/
def operator? (text : List Char) : Option String :=
  operators.find? (fun op => op.toList.isPrefixOf text)

/- A word without its quotes. -/
def unquote (raw : RawWord) : List Char :=
  raw.filter (fun c => c != '\'' && c != '"' && c != '\\')

/- The lines of a text below, up to the one that ends it. -/
def hereLines (delimiter : List Char) (tabs : Bool) :
    Nat → List Char → List Char × List Char
  | 0, text => ([], text)
  | _ + 1, [] => ([], [])
  | fuel + 1, text =>
    let line := text.takeWhile (· != '\n')
    let rest := (text.dropWhile (· != '\n')).drop 1
    let line := if tabs then line.dropWhile (· == '\t') else line
    if line == delimiter then
      ([], rest)
    else
      let (body, rest) := hereLines delimiter tabs fuel rest
      (line ++ '\n' :: body, rest)

/-
  The texts that begin below a line, for their delimiters, in
  order; and what follows them, on which line.
-/
def hereTexts : Nat → List (RawWord × Bool) → List Char →
    List Token × List Char × Nat
  | line, [], text => ([], text, line)
  | line, (raw, tabs) :: waiting, text =>
    let (body, behind) := hereLines (unquote raw) tabs (text.length + 1) text
    let read := text.length - behind.length
    let line := line + (text.take read).count '\n'
    let (tokens, behind, last) := hereTexts line waiting behind
    (⟨line, .text (unquote raw != raw) body⟩ :: tokens, behind, last)

/-
  The tokens of a text from a line on.  `waiting` are the
  delimiters of the texts that begin below the line; they are
  added behind the end of the line, in order.
-/
def tokensFrom :
    Nat → Nat → List (RawWord × Bool) → List Char → List Token
  | 0, line, _, _ => [⟨line, .finish⟩]
  | _ + 1, line, _, [] => [⟨line, .finish⟩]
  | fuel + 1, line, waiting, c :: rest =>
    let broken (why : String) : List Token :=
      [⟨line + rest.count '\n', .flaw why⟩]
    if c == ' ' || c == '\t' then
      tokensFrom fuel line waiting rest
    else if c == '#' then
      tokensFrom fuel line waiting (rest.dropWhile (· != '\n'))
    else if c == '\\' && rest.head? == some '\n' then
      tokensFrom fuel (line + 1) waiting (rest.drop 1)
    else if c == '\n' then
      let (texts, behind, last) := hereTexts (line + 1) waiting rest
      ⟨line + 1, .operator "\n"⟩ :: texts ++ tokensFrom fuel last [] behind
    else if Numeral.isDigit c && (rest.head? == some '<'
        || rest.head? == some '>') then
      ⟨line, .stream ((Numeral.digit? 10 c).getD 0)⟩
        :: tokensFrom fuel line waiting rest
    else
      match operator? (c :: rest) with
      | some op =>
        let rest := (c :: rest).drop op.length
        if op == "<<" || op == "<<-" then
          let start := rest.dropWhile (fun c => c == ' ' || c == '\t')
          match scanWord (start.length + 1) start with
          | .ok ([], _) =>
            ⟨line, .operator "<<"⟩ :: tokensFrom fuel line waiting rest
          | .ok (raw, rest) =>
            ⟨line, .operator "<<"⟩ :: ⟨line, .word raw⟩
              :: tokensFrom fuel line (waiting ++ [(raw, op == "<<-")]) rest
          | .error why => broken why
        else
          ⟨line, .operator op⟩ :: tokensFrom fuel line waiting rest
      | none =>
        match scanWord (4 * rest.length + 8) (c :: rest) with
        | .ok (raw, rest) =>
          let line := line + raw.count '\n'
          ⟨line, .word raw⟩ :: tokensFrom fuel line waiting rest
        | .error why => broken why

/- The tokens of a text that starts on a line. -/
def tokens (line : Nat) (text : List Char) : List Token :=
  tokensFrom (2 * text.length + 2) line [] text

end Script

end Sandbox

end TreeLint
