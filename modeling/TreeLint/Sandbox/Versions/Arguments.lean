import TreeLint.Sandbox.Versions.Settings

/-
  The arguments of a command of version control.

  Key definitions include:
    * `Arguments.Rule`
    * `Arguments.parse`
    * `Arguments.has`
    * `Arguments.value?`

  A command knows its options by letters and by names.  A name
  may be cut short as long as it is clear which one is meant,
  and `no-` in front of it takes the option back.  Letters may
  be bundled.  Two dashes end the options.
-/

------------------------------------------------------------
-- Options
------------------------------------------------------------

namespace TreeLint

namespace Sandbox

namespace Versions

/- What stands behind an option. -/
inductive Operand where
  | without
  | needed
  /- A value may follow at once, but not in the next argument. -/
  | allowed
deriving DecidableEq, Repr

/- An option that a command was called with. -/
structure Given where
  name : String
  isNegated : Bool
  value? : Option String
deriving DecidableEq, Repr

/- The arguments of a command, sorted out. -/
structure Arguments where
  options : List Given
  /- What is no option, in front of two dashes. -/
  words : List String
  /- What stands behind two dashes. -/
  behind? : Option (List String)
deriving Repr

namespace Arguments

/- An option that a command knows. -/
structure Rule where
  letter? : Option Char
  name : String
  operand : Operand
deriving DecidableEq, Repr

namespace Rule

/-
  Read a rule: a letter, a bar and a name, or only one of the
  two.  An equals sign behind it asks for a value and a
  question mark allows one.
-/
def of (text : String) : Rule :=
  let (body, operand) : List Char × Operand :=
    match text.toList.reverse with
    | '=' :: rest => (rest.reverse, .needed)
    | '?' :: rest => (rest.reverse, .allowed)
    | _ => (text.toList, .without)
  match body with
  | [c] => ⟨some c, String.singleton c, operand⟩
  | c :: '|' :: name => ⟨some c, String.ofList name, operand⟩
  | name => ⟨none, String.ofList name, operand⟩

/- Whether a rule has a name of more than a letter. -/
def isNamed (rule : Rule) : Bool :=
  1 < rule.name.length

/- The names of a rule, each with what it says. -/
def spellings (rule : Rule) : List (String × Bool) :=
  if !rule.isNamed then []
  else if rule.name.startsWith "no-" then
    [(rule.name, false),
      (String.ofList (rule.name.toList.drop 3), true)]
  else
    [(rule.name, false), ("no-" ++ rule.name, true)]

end Rule

/- The name of the option that is a number. -/
def numberName : String := "#"

/- The rule for a long name, and whether it takes the option back. -/
def named? (rules : List Rule) (name : String) : Option (Rule × Bool) :=
  let all := rules.flatMap fun rule =>
    rule.spellings.map fun (spelling, negated) => (spelling, rule, negated)
  match all.find? (fun (spelling, _) => spelling == name) with
  | some (_, rule, negated) => some (rule, negated)
  | none =>
    match all.filter (fun (spelling, _) => spelling.startsWith name) with
    | [(_, rule, negated)] => some (rule, negated)
    | (_, rule, negated) :: rest =>
      if rest.all (fun (_, other, also) => other == rule && also == negated)
      then some (rule, negated)
      else none
    | [] => none

/- The complaint about an option that nobody knows. -/
def unknown {α : Type} (option : String) : Attempt α :=
  .error (.usage ("error: unknown option \x60" ++ option ++ "'"))

/- The complaint about an option without its value. -/
def valueless {α : Type} (option : String) : Attempt α :=
  .error (.usage ("error: option \x60" ++ option ++ "' requires a value"))

/- The options in a bundle of letters; the last one may want a value. -/
def bundle (rules : List Rule) :
    List Char → Attempt (List Given × Option Rule)
  | [] => .ok ([], none)
  | c :: rest =>
    match rules.find? (fun rule => rule.letter? == some c) with
    | none => unknown (String.singleton c)
    | some rule =>
      match rule.operand, rest with
      | .without, rest => do
        let (given, pending) ← bundle rules rest
        return (⟨rule.name, false, none⟩ :: given, pending)
      | .needed, [] => .ok ([], some rule)
      | .allowed, [] => .ok ([⟨rule.name, false, none⟩], none)
      | _, value =>
        .ok ([⟨rule.name, false, some (String.ofList value)⟩], none)

/- Put an option in front of others. -/
def withOption (given : Given) (arguments : Arguments) : Arguments :=
  { arguments with options := given :: arguments.options }

/-
  Sort arguments out.  The flag says that everything behind
  the first word is left alone.
-/
def parse (rules : List Rule) (stops : Bool) :
    List String → Attempt Arguments
  | [] => .ok ⟨[], [], none⟩
  | "--" :: rest => .ok ⟨[], [], some rest⟩
  | argument :: rest =>
    match argument.toList with
    | '-' :: '-' :: long =>
      let name := String.ofList (long.takeWhile (· != '='))
      let attached := match long.drop name.length with
        | _ :: value => some (String.ofList value)
        | [] => none
      match named? rules name with
      | none => unknown name
      | some (rule, negated) =>
        match rule.operand, negated, attached, rest with
        | .needed, false, none, value :: rest =>
          (parse rules stops rest).map
            (withOption ⟨rule.name, false, some value⟩)
        | .needed, false, none, [] => valueless name
        | .without, _, some _, _ =>
          .error (.usage ("error: option \x60" ++ name
            ++ "' takes no value"))
        | _, true, some _, _ =>
          .error (.usage ("error: option \x60" ++ name
            ++ "' takes no value"))
        | _, _, _, rest =>
          (parse rules stops rest).map
            (withOption ⟨rule.name, negated, attached⟩)
    | '-' :: c :: letters =>
      let isNumber := (c :: letters).all Numeral.isDigit
        && rules.any (fun rule => rule.name == numberName)
      if isNumber then
        (parse rules stops rest).map
          (withOption
            ⟨numberName, false, some (String.ofList (c :: letters))⟩)
      else
        match bundle rules (c :: letters), rest with
        | .error failure, _ => .error failure
        | .ok (given, none), rest =>
          (parse rules stops rest).map fun arguments =>
            { arguments with options := given ++ arguments.options }
        | .ok (given, some rule), value :: rest =>
          (parse rules stops rest).map fun arguments =>
            { arguments with
              options := given ++ ⟨rule.name, false, some value⟩
                :: arguments.options }
        | .ok (_, some rule), [] => valueless rule.name
    | _ =>
      if stops then .ok ⟨[], argument :: rest, none⟩
      else
        (parse rules stops rest).map fun arguments =>
          { arguments with words := argument :: arguments.words }

/- Sort arguments out by rules that are written as texts. -/
def ofTexts (rules : List String) (args : List String) :
    Attempt Arguments :=
  parse (rules.map Rule.of) false args

------------------------------------------------------------
-- Questions
------------------------------------------------------------

/- The last time that an option was given. -/
def last? (arguments : Arguments) (name : String) : Option Given :=
  arguments.options.reverse.find? (fun given => given.name == name)

/- Whether an option was given and not taken back. -/
def has (arguments : Arguments) (name : String) : Bool :=
  (arguments.last? name).any (fun given => !given.isNegated)

/- Whether an option was taken back. -/
def hasNo (arguments : Arguments) (name : String) : Bool :=
  (arguments.last? name).any (fun given => given.isNegated)

/- The last value of an option. -/
def value? (arguments : Arguments) (name : String) : Option String :=
  (arguments.last? name).bind fun given =>
    if given.isNegated then none else given.value?

/- All values of an option, in order. -/
def values (arguments : Arguments) (name : String) : List String :=
  (arguments.options.filter
    (fun given => given.name == name && !given.isNegated)).filterMap
    Given.value?

/- What is no option, wherever the two dashes are. -/
def all (arguments : Arguments) : List String :=
  arguments.words ++ arguments.behind?.getD []

/- Whether one of some options was given. -/
def hasAny (arguments : Arguments) (names : List String) : Bool :=
  names.any arguments.has

end Arguments

end Versions

end Sandbox

end TreeLint
