import TreeLint.FileTree.Basic
import TreeLint.Text.Numeral

/-
  Patterns of file names.

  Key definitions include:
    * `Glyph`
    * `Pattern.matches?`
    * `Pattern.expand`

  In a pattern a star stands for any text, a question mark
  for any character and brackets for one character of a set,
  but only where they are not quoted.
-/

------------------------------------------------------------
-- Glyphs
------------------------------------------------------------

namespace TreeLint

namespace Sandbox

/- A part of a word while the shell works on it. -/
inductive Glyph where
  /- A character that stands for itself. -/
  | quoted (c : Char)
  /- A character as written without quotes. -/
  | plain (c : Char)
  /- A character that came from a variable or a command. -/
  | expanded (c : Char)
  /- The end of one word and the start of the next. -/
  | cut
  /- Quotes were here, so the word is there even if empty. -/
  | anchor
  /- A list of no words was here. -/
  | void
deriving DecidableEq

namespace Glyph

/- The character of a glyph. -/
def char? : Glyph → Option Char
  | quoted c => some c
  | plain c => some c
  | expanded c => some c
  | _ => none

/- Glyphs that stand for themselves. -/
def literal (text : String) : List Glyph :=
  text.toList.map quoted

/- The text of glyphs. -/
def text (glyphs : List Glyph) : String :=
  String.ofList (glyphs.filterMap char?)

/- The character of a glyph that may have a special meaning. -/
def active? : Glyph → Option Char
  | plain c => some c
  | expanded c => some c
  | _ => none

end Glyph

------------------------------------------------------------
-- Matching
------------------------------------------------------------

namespace Pattern

/- Whether a glyph makes a word a pattern. -/
def isActive (g : Glyph) : Bool :=
  match g.active? with
  | some c => c == '*' || c == '?' || c == '['
  | none => false

/- Whether a glyph is a certain character without quotes. -/
def isBare (c : Char) (g : Glyph) : Bool :=
  g.active? == some c

/- The name of a class of characters, and what follows it. -/
def className? (glyphs : List Glyph) : Option (String × List Glyph) :=
  match glyphs with
  | a :: b :: rest =>
    if isBare '[' a && isBare ':' b then
      let name := rest.takeWhile (fun g => !isBare ':' g)
      match rest.drop name.length with
      | c :: d :: behind =>
        if isBare ':' c && isBare ']' d then some (Glyph.text name, behind)
        else none
      | _ => none
    else
      none
  | _ => none

/- Up to the bracket that ends a set, and what follows it. -/
def setUntil : Nat → List Glyph → Option (List Glyph × List Glyph)
  | 0, _ => none
  | _ + 1, [] => none
  | fuel + 1, g :: rest =>
    match className? (g :: rest) with
    | some (_, behind) =>
      let taken := (g :: rest).take (rest.length + 1 - behind.length)
      (setUntil fuel behind).map fun (set, after) => (taken ++ set, after)
    | none =>
      if isBare ']' g then some ([], rest)
      else (setUntil fuel rest).map fun (set, after) => (g :: set, after)

/- The set in brackets, and what follows it. -/
def bracket? (glyphs : List Glyph) : Option (List Glyph × List Glyph) :=
  let isTurned (g : Glyph) : Bool := isBare '!' g || isBare '^' g
  let (front, body) : List Glyph × List Glyph := match glyphs with
    | a :: b :: rest =>
      if isTurned a && isBare ']' b then ([a, .quoted ']'], rest)
      else if isTurned a then ([a], b :: rest)
      else if isBare ']' a then ([.quoted ']'], b :: rest)
      else ([], a :: b :: rest)
    | rest => ([], rest)
  (setUntil (body.length + 1) body).map fun (set, after) =>
    (front ++ set, after)

/- Whether a character is in a class. -/
def inClass (c : Char) (name : String) : Bool :=
  let n := c.toNat
  let isGraph := 33 ≤ n && n ≤ 126
  if name == "alpha" then c.isAlpha
  else if name == "digit" then Numeral.isDigit c
  else if name == "alnum" then c.isAlphanum
  else if name == "upper" then c.isUpper
  else if name == "lower" then c.isLower
  else if name == "space" then c == ' ' || (9 ≤ n && n ≤ 13)
  else if name == "blank" then c == ' ' || c == '\t'
  else if name == "punct" then isGraph && !c.isAlphanum
  else if name == "graph" then isGraph
  else if name == "print" then isGraph || c == ' '
  else if name == "cntrl" then n < 32 || n == 127
  else if name == "xdigit" then (Numeral.digit? 16 c).isSome
  else false

/- Whether a character is in a set of characters and ranges. -/
def inRanges (c : Char) : Nat → List Glyph → Bool
  | 0, _ => false
  | _ + 1, [] => false
  | fuel + 1, a :: rest =>
    match className? (a :: rest) with
    | some (name, behind) => inClass c name || inRanges c fuel behind
    | none =>
      match rest with
      | dash :: b :: behind =>
        match isBare '-' dash, a.char?, b.char? with
        | true, some low, some high =>
          (low ≤ c && c ≤ high) || inRanges c fuel behind
        | _, _, _ => a.char? == some c || inRanges c fuel rest
      | _ => a.char? == some c || inRanges c fuel rest

/- Whether a character is in the set in brackets. -/
def inSet (c : Char) (set : List Glyph) : Bool :=
  match set with
  | g :: rest =>
    if isBare '!' g || isBare '^' g then !inRanges c (rest.length + 1) rest
    else inRanges c (set.length + 1) set
  | [] => false

/- Whether a pattern matches a whole text. -/
def matchesFrom : Nat → List Glyph → List Char → Bool
  | 0, _, _ => false
  | _ + 1, [], text => text.isEmpty
  | fuel + 1, g :: rest, text =>
    match g.active?, text with
    | some '*', [] => matchesFrom fuel rest []
    | some '*', c :: more =>
      matchesFrom fuel rest (c :: more) || matchesFrom fuel (g :: rest) more
    | some '?', _ :: more => matchesFrom fuel rest more
    | some '?', [] => false
    | some '[', _ =>
      match bracket? rest, text with
      | some (set, after), c :: more =>
        inSet c set && matchesFrom fuel after more
      | some _, [] => false
      | none, c :: more => c == '[' && matchesFrom fuel rest more
      | none, [] => false
    | _, _ =>
      match g.char?, text with
      | some d, c :: more => c == d && matchesFrom fuel rest more
      | some _, [] => false
      | none, _ => matchesFrom fuel rest text

/- Whether a pattern matches a whole text. -/
def matches? (pattern : List Glyph) (text : String) : Bool :=
  matchesFrom (pattern.length + text.length + 2) pattern text.toList

------------------------------------------------------------
-- Expanding Patterns To Paths
------------------------------------------------------------

/- The parts of a pattern between slashes. -/
def parts : List Glyph → List (List Glyph)
  | [] => [[]]
  | g :: rest =>
    if g.char? == some '/' then
      [] :: parts rest
    else
      match parts rest with
      | [] => [[g]]
      | first :: others => (g :: first) :: others

/- The names in a directory that a part of a pattern matches. -/
def namesMatching
    (t : FileTree)
    (cwd : Location)
    (directory : String)
    (part : List Glyph) : List String :=
  match t.directory? cwd (if directory.isEmpty then "." else directory) with
  | none => []
  | some loc =>
    ([Path.current, Path.parent] ++ t.names loc).filter fun name =>
      matches? part name
        && (!name.startsWith "." || (Glyph.text part).startsWith ".")

/- The paths that the parts of a pattern match behind a beginning. -/
def expandParts
    (t : FileTree)
    (cwd : Location)
    (front : String) : List (List Glyph) → List String
  | [] => [front]
  | [part] =>
    if part.any isActive then
      (namesMatching t cwd front part).map (front ++ ·)
    else
      let path := front ++ Glyph.text part
      if part.isEmpty || (t.locateEntry cwd path).toOption.isSome then
        [path]
      else
        []
  | part :: rest =>
    if part.any isActive then
      (namesMatching t cwd front part).flatMap fun name =>
        expandParts t cwd (front ++ name ++ "/") rest
    else
      expandParts t cwd (front ++ Glyph.text part ++ "/") rest

/-
  The paths that a word stands for.  A word that is no
  pattern, or matches nothing, stands for itself.
-/
def expand (t : FileTree) (cwd : Location) (word : List Glyph) :
    List String :=
  if word.any isActive then
    match expandParts t cwd "" (parts word) with
    | [] => [Glyph.text word]
    | paths => paths
  else
    [Glyph.text word]

end Pattern

end Sandbox

end TreeLint
