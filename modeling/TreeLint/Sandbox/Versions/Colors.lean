import TreeLint.Text.Lines
import TreeLint.Text.Numeral

/-
  Colors of a terminal.

  Key definitions include:
    * `Color`
    * `Paint.parse?`
    * `Paint.sequence`

  Words name a color for letters and one for what is behind
  them, and ways to set letters off.  A terminal takes them as
  a sequence of numbers behind an escape character.
-/

------------------------------------------------------------
-- Colors
------------------------------------------------------------

namespace TreeLint

namespace Sandbox

namespace Versions

/- A color. -/
inductive Color where
  /- Nothing is asked for. -/
  | normal
  /- The numbers behind 30 for letters and 40 for the ground. -/
  | plain (n : Nat)
  | indexed (n : Nat)
  | mixed (red green blue : Nat)
deriving DecidableEq, Repr

namespace Color

/- The names of the plain colors, in order. -/
def names : List String :=
  ["black", "red", "green", "yellow", "blue", "magenta", "cyan", "white"]

/- A number of two digits of base sixteen. -/
def pair? (a b : Char) : Option Nat := do
  let high ← Numeral.digit? 16 a
  let low ← Numeral.digit? 16 b
  return 16 * high + low

/- The color that a word names. -/
def parse? (word : String) : Option Color :=
  let small := word.toLower
  let named (text : String) : Option Nat := names.idxOf? text
  if small == "normal" then some .normal
  else if small == "default" then some (.plain 9)
  else
    match word.toList with
    | ['#', a, b, c, d, e, f] => do
      return .mixed (← pair? a b) (← pair? c d) (← pair? e f)
    | chars =>
      match named small with
      | some n => some (.plain n)
      | none =>
        if small.startsWith "bright" then
          (named (String.ofList (small.toList.drop 6))).map fun n =>
            .plain (60 + n)
        else if word == "-1" then some .normal
        else
          match Numeral.natural? 10 chars with
          | some n =>
            if n < 8 then some (.plain n)
            else if n < 16 then some (.plain (52 + n))
            else if n < 256 then some (.indexed n)
            else none
          | none => none

/- The numbers for a color, on top of what says where it is. -/
def codes (start : Nat) : Color → List Nat
  | .normal => []
  | .plain n => [start + n]
  | .indexed n => [start + 8, 5, n]
  | .mixed r g b => [start + 8, 2, r, g, b]

end Color

------------------------------------------------------------
-- Paint
------------------------------------------------------------

/- How letters are painted. -/
structure Paint where
  letters? : Option Color
  ground? : Option Color
  /- The numbers of ways to set letters off. -/
  marks : List Nat
  resets : Bool
deriving DecidableEq, Repr

namespace Paint

/- The ways to set letters off, and what takes them back. -/
def markNames : List (String × Nat × Nat) :=
  [ ("bold", 1, 22), ("dim", 2, 22), ("italic", 3, 23), ("ul", 4, 24),
    ("blink", 5, 25), ("reverse", 7, 27), ("strike", 9, 29) ]

/- The number of a way to set letters off. -/
def mark? (word : String) : Option Nat :=
  let small := word.toLower
  let positive := markNames.find? fun (name, _) => name == small
  let negative := markNames.find? fun (name, _) =>
    small == "no" ++ name || small == "no-" ++ name
  match positive, negative with
  | some (_, n, _), _ => some n
  | none, some (_, _, n) => some n
  | none, none => none

/- Take a word into account. -/
def withWord? (paint : Paint) (word : String) : Option Paint :=
  if word.toLower == "reset" then some { paint with resets := true }
  else
    match Color.parse? word, paint.letters?, paint.ground? with
    | some color, none, _ => some { paint with letters? := some color }
    | some color, some _, none => some { paint with ground? := some color }
    | some _, some _, some _ => none
    | none, _, _ =>
      (mark? word).map fun n => { paint with marks := n :: paint.marks }

/- The paint that words describe. -/
def parse? (text : String) : Option Paint :=
  let words := (Text.pieces (fun c => c == ' ' || c == '\t' || c == '\n')
    text.toList).filter (fun word => !word.isEmpty)
  words.foldlM (fun paint word => paint.withWord? (String.ofList word))
    ⟨none, none, [], false⟩

/- What a terminal is sent for a paint. -/
def sequence (paint : Paint) : String :=
  let marks := (List.range 30).filter paint.marks.contains
  let codes := marks ++ (paint.letters?.getD .normal).codes 30
    ++ (paint.ground?.getD .normal).codes 40
  if codes.isEmpty && !paint.resets then ""
  else
    "\x1b[" ++ (if paint.resets && !codes.isEmpty then ";" else "")
      ++ Text.joinWith ";" (codes.map toString) ++ "m"

end Paint

end Versions

end Sandbox

end TreeLint
