import TreeLint.Sandbox.Versions.Joining
import TreeLint.Sandbox.Versions.Lens

/-
  Blanks that should not be in files.

  Key definitions include:
    * `BlankRules`
    * `BlankRules.ofText`
    * `BlankRules.isFaulty`
    * `BlankRules.mended`

  Rules say which blanks at the end of a line or in front of
  its text are faults.  A line with faults can be mended.
-/

------------------------------------------------------------
-- Rules
------------------------------------------------------------

namespace TreeLint

namespace Sandbox

namespace Versions

open Joining (Line)

/- Which blanks are faults. -/
structure BlankRules where
  atEnd : Bool
  /- Empty lines at the end of a file are faults. -/
  atFileEnd : Bool
  spaceBeforeTab : Bool
  /- An indent that could have tabs is a fault. -/
  spacesInIndent : Bool
  tabsInIndent : Bool
  /- A carriage return belongs to the end of a line. -/
  endsWithReturn : Bool
  tabWidth : Nat
deriving DecidableEq, Repr

namespace BlankRules

/- The rules where nothing is said. -/
def usual : BlankRules where
  atEnd := true
  atFileEnd := true
  spaceBeforeTab := true
  spacesInIndent := false
  tabsInIndent := false
  endsWithReturn := false
  tabWidth := 8

/- No rules at all. -/
def none' : BlankRules :=
  { usual with atEnd := false, atFileEnd := false, spaceBeforeTab := false }

/- All rules that do not contradict each other. -/
def all : BlankRules :=
  { usual with spacesInIndent := true }

/- The names of the rules. -/
def ruleNames : List String :=
  [ "trailing-space", "space-before-tab", "indent-with-non-tab",
    "cr-at-eol", "blank-at-eol", "blank-at-eof", "tab-in-indent" ]

/- Let a rule hold or not. -/
def withRule (rules : BlankRules) (holds : Bool) : String → BlankRules
  | "trailing-space" => { rules with atEnd := holds, atFileEnd := holds }
  | "space-before-tab" => { rules with spaceBeforeTab := holds }
  | "indent-with-non-tab" => { rules with spacesInIndent := holds }
  | "cr-at-eol" => { rules with endsWithReturn := holds }
  | "blank-at-eol" => { rules with atEnd := holds }
  | "blank-at-eof" => { rules with atFileEnd := holds }
  | "tab-in-indent" => { rules with tabsInIndent := holds }
  | _ => rules

/- Take a word of a list of rules into account. -/
def withWord (rules : BlankRules) (word : String) : BlankRules :=
  let (holds, name) := if word.startsWith "-" then (false, without "-" word)
    else (true, word)
  if name.isEmpty then rules
  else if name.startsWith "tabwidth=" then
    match Numeral.natural? 10 (without "tabwidth=" name).toList with
    | some n => if 0 < n && n < 64 then { rules with tabWidth := n } else rules
    | none => rules
  else
    match ruleNames.find? (fun rule => rule.startsWith name) with
    | some rule => rules.withRule holds rule
    | none => rules

/- The rules in a text, unless they contradict each other. -/
def ofText (text : String) : Option BlankRules :=
  let words := (Text.pieces (fun c => c == ',' || c == ' ' || c == '\t')
    text.toList).map String.ofList
  let rules := words.foldl withWord usual
  if rules.tabsInIndent && rules.spacesInIndent then none else some rules

/- The rules for a path; without any if they contradict each other. -/
def at' (site : Site) (lens : Lens) (p : Path) : Option BlankRules :=
  let configured := (site.text? "core.whitespace").map ofText
  if lens.attributes.isEmpty then configured.getD (some usual)
  else
    match Attributes.value lens.attributes (namesOf p) "whitespace" with
    | .isSet => some all
    | .isUnset => some none'
    | .text text => ofText text
    | .unspecified => configured.getD (some usual)

------------------------------------------------------------
-- Faults
------------------------------------------------------------

/- Blanks between words. -/
def isBlank (b : UInt8) : Bool :=
  b == 32 || b == 9 || b == 10 || b == 13

/- A line cut into its text and what ends it. -/
def split (rules : BlankRules) (line : Line) : Line × Line :=
  let (text, feed) : Line × Line := match line.reverse with
    | 10 :: rest => (rest.reverse, [10])
    | _ => (line, [])
  match rules.endsWithReturn, text.reverse with
  | true, 13 :: rest => (rest.reverse, 13 :: feed)
  | _, _ => (text, feed)

/- A text without the blanks at its end. -/
def trimmed (text : Line) : Line :=
  (text.reverse.dropWhile isBlank).reverse

/-
  Look at an indent: whether it has a space before a tab, and
  whether it has a tab; then how many spaces come last.
-/
def indentOf : Nat → Bool → Bool → Line → Bool × Bool × Nat
  | spaces, mixed, tabs, 32 :: rest => indentOf (spaces + 1) mixed tabs rest
  | spaces, mixed, _, 9 :: rest => indentOf 0 (mixed || 0 < spaces) true rest
  | spaces, mixed, tabs, _ => (mixed, tabs, spaces)

/- Whether a line has blanks that should not be there. -/
def isFaulty (rules : BlankRules) (line : Line) : Bool :=
  let (text, _) := rules.split line
  let trimmed' := trimmed text
  let body := if rules.atEnd then trimmed' else text
  let (mixed, tabs, spaces) := indentOf 0 false false body
  (rules.atEnd && trimmed' != text)
    || (rules.spaceBeforeTab && mixed)
    || (rules.tabsInIndent && tabs)
    || (rules.spacesInIndent && rules.tabWidth ≤ spaces)

/- Spaces of an indent, as many as possible turned into tabs. -/
def withTabs (width : Nat) : Nat → Line → Line
  | spaces, 32 :: rest =>
    if spaces + 1 == width then 9 :: withTabs width 0 rest
    else withTabs width (spaces + 1) rest
  | _, b :: rest => b :: withTabs width 0 rest
  | spaces, [] => List.replicate spaces 32

/- Tabs of an indent turned into spaces; the number is the column. -/
def withSpaces (width : Nat) : Nat → Line → Line
  | column, 9 :: rest =>
    let n := width - column % width
    List.replicate n 32 ++ withSpaces width (column + n) rest
  | column, b :: rest => b :: withSpaces width (column + 1) rest
  | _, [] => []

/- A line without the blanks that should not be there. -/
def mended (rules : BlankRules) (line : Line) : Line :=
  let (text, ending) := rules.split line
  let text := if rules.atEnd then trimmed text else text
  let indent := text.takeWhile (fun b => b == 32 || b == 9)
  let body := text.drop indent.length
  let (mixed, tabs, spaces) := indentOf 0 false false text
  let upToTab := (indent.reverse.dropWhile (· != 9)).reverse
  let indent :=
    if (rules.spaceBeforeTab && mixed)
        || (rules.spacesInIndent && rules.tabWidth ≤ spaces) then
      if rules.spacesInIndent then withTabs rules.tabWidth 0 indent
      else withTabs rules.tabWidth 0 upToTab ++ indent.drop upToTab.length
    else if rules.tabsInIndent && tabs then
      withSpaces rules.tabWidth 0 upToTab ++ indent.drop upToTab.length
    else indent
  indent ++ body ++ ending

/- Whether a line is empty but for blanks. -/
def isEmptyLine (line : Line) : Bool :=
  line.all isBlank

end BlankRules

end Versions

end Sandbox

end TreeLint
