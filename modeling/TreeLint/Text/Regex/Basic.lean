import TreeLint.Text.Octet

/-
  Regular expressions.

  Key definitions include:
    * `CharSet`
    * `Regex`
    * `Regex.ends`
    * `Regex.find?`

  An expression is matched against a text from a position on.
  `ends` tells all positions where a match may end, the
  farthest first, each with the groups that were matched on
  the way.  `find?` takes the first position that has a match
  and the farthest end from there.
-/

------------------------------------------------------------
-- Sets Of Characters
------------------------------------------------------------

namespace TreeLint

/- The characters in some ranges, or all others. -/
structure CharSet where
  isNegated : Bool
  ranges : List (Char × Char)
deriving DecidableEq, Repr

namespace CharSet

/- The set of one character. -/
def single (c : Char) : CharSet :=
  ⟨false, [(c, c)]⟩

/- The characters with a class name. -/
def named? (name : String) : Option (List (Char × Char)) :=
  match name with
  | "alnum" => some [('0', '9'), ('A', 'Z'), ('a', 'z')]
  | "alpha" => some [('A', 'Z'), ('a', 'z')]
  | "blank" => some [(' ', ' '), ('\t', '\t')]
  | "cntrl" => some [('\x00', '\x1f'), ('\x7f', '\x7f')]
  | "digit" => some [('0', '9')]
  | "graph" => some [('!', '~')]
  | "lower" => some [('a', 'z')]
  | "print" => some [(' ', '~')]
  | "punct" => some [('!', '/'), (':', '@'), ('[', '\x60'), ('\x7b', '~')]
  | "space" => some [(' ', ' '), ('\t', '\r')]
  | "upper" => some [('A', 'Z')]
  | "xdigit" => some [('0', '9'), ('A', 'F'), ('a', 'f')]
  | _ => none

/- Letters, digits and the low line. -/
def word : List (Char × Char) :=
  [('0', '9'), ('A', 'Z'), ('a', 'z'), ('_', '_')]

/- The blanks. -/
def space : List (Char × Char) :=
  [(' ', ' '), ('\t', '\r')]

/- Every character but the one with the number zero. -/
def any : CharSet :=
  ⟨true, [('\x00', '\x00')]⟩

/- Whether a character is in one of the ranges. -/
def inRanges (set : CharSet) (c : Char) : Bool :=
  set.ranges.any fun (low, high) => low ≤ c && c ≤ high

/- Whether a character is in the set; its size may not matter. -/
def contains (set : CharSet) (foldsCase : Bool) (c : Char) : Bool :=
  set.isNegated !=
    (set.inRanges c || (foldsCase && set.inRanges (Octet.swapCase c)))

end CharSet

------------------------------------------------------------
-- Expressions
------------------------------------------------------------

/- A condition on a position that takes up no character. -/
inductive Place where
  | lineStart
  | lineEnd
  | textStart
  | textEnd
  | wordStart
  | wordEnd
  /- The start or the end of a word. -/
  | edge
  | noEdge
deriving DecidableEq, Repr

/- A regular expression. -/
inductive Regex where
  | empty
  | one (set : CharSet)
  | place (place : Place)
  | sequence (first second : Regex)
  | either (first second : Regex)
  /- At least so often, and at most so often if there is a limit. -/
  | many (part : Regex) (least : Nat) (most? : Option Nat)
  | group (n : Nat) (part : Regex)
  /- What a group has matched, again. -/
  | again (n : Nat)
deriving DecidableEq, Repr

namespace Regex

/- Whether the expression asks for what a group has matched. -/
def looksBack : Regex → Bool
  | sequence first second => first.looksBack || second.looksBack
  | either first second => first.looksBack || second.looksBack
  | many part _ _ => part.looksBack
  | group _ part => part.looksBack
  | again _ => true
  | _ => false

/- The number of groups. -/
def groups : Regex → Nat
  | sequence first second => first.groups + second.groups
  | either first second => first.groups + second.groups
  | many part _ _ => part.groups
  | group _ part => part.groups + 1
  | _ => 0

------------------------------------------------------------
-- Positions
------------------------------------------------------------

/- A text that expressions are matched against. -/
structure Subject where
  chars : Array Char
  foldsCase : Bool
  /- Lines within the text have starts and ends of their own. -/
  hasLines : Bool

/- A position in a text, and where the groups have matched. -/
structure State where
  position : Nat
  groups : List (Nat × Nat × Nat)
deriving DecidableEq, Repr

/- Whether the character at a position belongs to a word. -/
def isWordAt (s : Subject) (i : Nat) : Bool :=
  match s.chars[i]? with
  | some c => Octet.isAlphanumeric c || c == '_'
  | none => false

/- Whether the character in front of a position belongs to a word. -/
def isWordBefore (s : Subject) (i : Nat) : Bool :=
  i != 0 && isWordAt s (i - 1)

/- Whether a position meets a condition. -/
def meets (s : Subject) (i : Nat) : Place → Bool
  | .textStart => i == 0
  | .textEnd => i == s.chars.size
  | .lineStart => i == 0 || (s.hasLines && s.chars[i - 1]? == some '\n')
  | .lineEnd =>
    i == s.chars.size || (s.hasLines && s.chars[i]? == some '\n')
  | .wordStart => isWordAt s i && !isWordBefore s i
  | .wordEnd => isWordBefore s i && !isWordAt s i
  | .edge => isWordAt s i != isWordBefore s i
  | .noEdge => isWordAt s i == isWordBefore s i

/- Whether a set holds the character at a position. -/
def holdsAt (s : Subject) (set : CharSet) (i : Nat) : Bool :=
  match s.chars[i]? with
  | some c => set.contains s.foldsCase c
  | none => false

/- Whether two characters are taken for the same. -/
def agree (s : Subject) (a b : Option Char) : Bool :=
  match a, b with
  | some a, some b =>
    a == b || (s.foldsCase && Octet.swapCase a == b)
  | _, _ => false

------------------------------------------------------------
-- Matching
------------------------------------------------------------

/- Leave out states whose key has been seen before. -/
def firstOfEach {κ : Type} [BEq κ] (key : State → κ) :
    List State → List State
  | a :: b :: rest =>
    if key a == key b then firstOfEach key (a :: rest)
    else a :: firstOfEach key (b :: rest)
  | states => states
termination_by states => states.length

/- States in order, the farthest first, and one for each position. -/
def arrange (keepsAll : Bool) (states : List State) : List State :=
  match states with
  | [] => []
  | [state] => [state]
  | _ =>
    let sorted := states.mergeSort fun a b => b.position ≤ a.position
    if keepsAll then sorted.eraseDups
    else firstOfEach State.position sorted

/- How many characters of a set follow one another, within a limit. -/
def runLength (s : Subject) (set : CharSet) (i : Nat) : Nat → Nat
  | 0 => 0
  | limit + 1 =>
    if holdsAt s set i then runLength s set (i + 1) limit + 1 else 0

/- Carry out a step so often. -/
def repeatedly (keepsAll : Bool) (step : State → List State) :
    Nat → List State → List State
  | 0, states => states
  | _, [] => []
  | n + 1, states =>
    repeatedly keepsAll step n (arrange keepsAll (states.flatMap step))

/-
  Carry out a step as often as it leads to states that have not
  been reached before.
-/
def further (keepsAll : Bool) (step : State → List State) :
    Nat → List State → List State → List State
  | 0, reached, _ => reached
  | _, reached, [] => reached
  | n + 1, reached, states =>
    let next := arrange keepsAll (states.flatMap fun state =>
      (step state).filter fun after => state.position < after.position)
    let fresh := next.filter fun state =>
      if keepsAll then !reached.contains state
      else !reached.any fun other => other.position == state.position
    further keepsAll step n (reached ++ fresh) fresh

/- The states in which a match may end, the farthest first. -/
def ends (s : Subject) (keepsAll : Bool) : Regex → State → List State
  | empty, state => [state]
  | one set, state =>
    if holdsAt s set state.position then
      [{ state with position := state.position + 1 }]
    else
      []
  | place p, state => if meets s state.position p then [state] else []
  | sequence first second, state =>
    arrange keepsAll
      ((ends s keepsAll first state).flatMap (ends s keepsAll second))
  | either first second, state =>
    arrange keepsAll
      (ends s keepsAll first state ++ ends s keepsAll second state)
  | many (one set) least most?, state =>
    let room := s.chars.size - state.position
    let n := runLength s set state.position
      (match most? with
        | some most => min most room
        | none => room)
    ((List.range (n + 1)).drop least).reverse.map fun k =>
      { state with position := state.position + k }
  | many part least most?, state =>
    let step := ends s keepsAll part
    let start := repeatedly keepsAll step least [state]
    let room := s.chars.size + 1
    let times := match most? with
      | some most => min (most - least) room
      | none => room
    arrange keepsAll (further keepsAll step times start start)
  | group n part, state =>
    (ends s keepsAll part state).map fun after =>
      { after with
        groups := (n, state.position, after.position)
          :: after.groups.filter (fun (m, _) => m != n) }
  | again n, state =>
    match state.groups.lookup n with
    | none => []
    | some (low, high) =>
      if (List.range (high - low)).all fun k =>
          agree s s.chars[low + k]? s.chars[state.position + k]?
      then [{ state with position := state.position + (high - low) }]
      else []

/- Where an expression has matched, and its groups. -/
structure Found where
  start : Nat
  stop : Nat
  groups : List (Nat × Nat × Nat)
deriving DecidableEq, Repr

namespace Found

/- What a group has matched; the whole match is group zero. -/
def group? (found : Found) (n : Nat) : Option (Nat × Nat) :=
  if n == 0 then some (found.start, found.stop) else found.groups.lookup n

/- The characters of a group; none if it has matched nothing. -/
def text (found : Found) (s : Subject) (n : Nat) : List Char :=
  match found.group? n with
  | some (low, high) => (s.chars.extract low high).toList
  | none => []

end Found

/- The matches from a position on, the longest first. -/
def matchesAt (re : Regex) (s : Subject) (i : Nat) : List Found :=
  (ends s re.looksBack re ⟨i, []⟩).map fun state =>
    ⟨i, state.position, state.groups⟩

/- The first match that is good enough, at one of some positions. -/
def findWhere? (re : Regex) (s : Subject) (isGood : Found → Bool) :
    Nat → Nat → Option Found
  | 0, _ => none
  | positions + 1, i =>
    match (re.matchesAt s i).find? isGood with
    | some found => some found
    | none => findWhere? re s isGood positions (i + 1)

/- The first and longest match from a position on. -/
def find? (re : Regex) (s : Subject) (i : Nat) : Option Found :=
  re.findWhere? s (fun _ => true) (s.chars.size + 1 - i) i

/- Whether an expression matches anywhere. -/
def isIn (re : Regex) (s : Subject) : Bool :=
  (re.find? s 0).isSome

end Regex

end TreeLint
