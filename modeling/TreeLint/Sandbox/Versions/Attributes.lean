import TreeLint.Sandbox.Versions.Ignored

/-
  Attributes of paths.

  Key definitions include:
    * `Attributes.Line`
    * `Attributes.ofText`
    * `Attributes.Sources`
    * `Attributes.states`
    * `Attributes.value`

  Files in the work tree give attributes to paths, and so do
  files for all directories.  A name may stand for several
  attributes at once.
-/

------------------------------------------------------------
-- Lines Of Attributes
------------------------------------------------------------

namespace TreeLint

namespace Sandbox

namespace Versions

namespace Attributes

/- The name of the files that give attributes. -/
def fileName : String := ".gitattributes"

/- What an attribute is for a path. -/
inductive State where
  | isSet
  | isUnset
  | unspecified
  | text (value : String)
deriving DecidableEq, Repr

/- A line that gives attributes to paths. -/
structure Line where
  rule : Ignored.Rule
  states : List (String × State)
deriving Repr

/- A line of definitions: a name and what it stands for. -/
structure Definition where
  name : String
  states : List (String × State)
deriving Repr

/- A word that gives an attribute. -/
def stateOf (word : List Char) : String × State :=
  match word with
  | '-' :: name => (String.ofList name, .isUnset)
  | '!' :: name => (String.ofList name, .unspecified)
  | word =>
    let name := word.takeWhile (· != '=')
    match word.drop name.length with
    | _ :: value => (String.ofList name, .text (String.ofList value))
    | [] => (String.ofList name, .isSet)

/- The words of a line. -/
def words (line : List Char) : List (List Char) :=
  (Text.pieces (fun c => c == ' ' || c == '\t' || c == '\r') line).filter
    (fun word => !word.isEmpty)

/- The pattern at the start of a line, and the words behind it. -/
def patternOf (line : List Char) : Option (List Char × List (List Char)) :=
  let line := line.dropWhile
    (fun c => c == ' ' || c == '\t' || c == '\r')
  match line with
  | '"' :: rest =>
    (Settings.quoted? rest).map fun (inner, rest) => (inner, words rest)
  | line =>
    match words line with
    | pattern :: states => some (pattern, states)
    | [] => none

/- What defines a name for some attributes. -/
def definitionStart : List Char := "[attr]".toList

/- Whether a text may be the name of an attribute. -/
def isName (name : String) : Bool :=
  let isPart (c : Char) : Bool :=
    c == '-' || c == '.' || c == '_' || c.isAlphanum
  match name.toList with
  | [] => false
  | '-' :: _ => false
  | name => name.all isPart

/- The most bytes that a line may have. -/
def lineLimit : Nat := 2048

/-
  The line of a text, or the definition on it.  A name that is
  none spoils the line.
-/
def ofLine? (line : List Char) : Option (Line ⊕ Definition) :=
  match patternOf line with
  | none => none
  | some (pattern, words) =>
    let states := words.map stateOf
    if pattern.head? == some '#' || lineLimit ≤ line.length
        || !states.all (fun given => isName given.1) then
      none
    else if definitionStart.isPrefixOf pattern then
      let name := String.ofList (pattern.drop definitionStart.length)
      match name, words with
      | "", name :: _ =>
        if isName (String.ofList name) then
          some (.inr ⟨String.ofList name, states.drop 1⟩)
        else none
      | name, _ =>
        if isName name then some (.inr ⟨name, states⟩) else none
    else if pattern.head? == some '!' then none
    else some (.inl ⟨Ignored.Rule.ofPattern pattern, states⟩)

/- The lines of a file of attributes, and its definitions. -/
def ofText (text : String) : List Line × List Definition :=
  let found := (Text.pieces (· == '\n') text.toList).filterMap ofLine?
  (found.filterMap (fun | .inl line => some line | .inr _ => none),
    found.filterMap (fun | .inr d => some d | .inl _ => none))

/- The name that is defined everywhere. -/
def binary : Definition :=
  ⟨"binary", [("diff", .isUnset), ("merge", .isUnset), ("text", .isUnset)]⟩

/- The attributes for a work tree. -/
structure Sources where
  /- Attributes for all directories that beat all others. -/
  strong : List Line
  /- Attributes in directories, by the names that lead to them. -/
  inTree : List (Location × List Line)
  /- Attributes for all directories that give way. -/
  weak : List Line
  definitions : List Definition
  foldsCase : Bool

/- Whether no path has an attribute. -/
def Sources.isEmpty (s : Sources) : Bool :=
  s.strong.isEmpty && s.inTree.isEmpty && s.weak.isEmpty

/- What is known of a path, the names that were found first. -/
abbrev States := List (String × State)

/-
  Add what a word gives to what is known.  What is known
  already stays; a name that is set brings what it stands for.
-/
def learn (definitions : List Definition) :
    Nat → States → String × State → States
  | 0, known, _ => known
  | depth + 1, known, given =>
    if (known.lookup given.1).isSome then known
    else
      match given.2, definitions.find? (fun d => d.name == given.1) with
      | .isSet, some d =>
        d.states.reverse.foldl (learn definitions depth)
          (known ++ [given])
      | _, _ => known ++ [given]

/- Add what lines give to a path, seen from their directory. -/
def learnFrom (s : Sources) (names : List String) (known : States)
    (lines : List Line) : States :=
  lines.reverse.foldl
    (fun known line =>
      if line.rule.applies s.foldsCase false names then
        line.states.reverse.foldl
          (learn s.definitions (s.definitions.length + 1)) known
      else known)
    known

/- The attributes of a path. -/
def states (s : Sources) (names : List String) : States :=
  let inTree := (List.range names.length).reverse.map fun depth =>
    ((s.inTree.lookup (names.take depth)).getD [], names.drop depth)
  ((s.strong, names) :: inTree ++ [(s.weak, names)]).foldl
    (fun known (lines, names) => learnFrom s names known lines) []

/- What an attribute is for a path. -/
def value (s : Sources) (names : List String) (asked : String) :
    State :=
  ((states s names).lookup asked).getD .unspecified

end Attributes


end Versions

end Sandbox

end TreeLint
