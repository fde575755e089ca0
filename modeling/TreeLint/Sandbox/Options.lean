import TreeLint.Sandbox.World

/-
  The options of small programs.

  Key definitions include:
    * `OptionTable`
    * `Options.read`
    * `Options.has`
    * `Options.last`

  Options may stand behind other words.  Letters may be
  bundled, a long name may be cut short as long as only one
  option is meant, and two dashes end the options.
-/

------------------------------------------------------------
-- Tables
------------------------------------------------------------

namespace TreeLint

namespace Sandbox

/- The options that a program knows. -/
structure OptionTable where
  /- The letters of options without a value. -/
  plain : String
  /- The letters of options with a value. -/
  valued : String
  /- Long names, each with the letter that means the same. -/
  names : List (String × Char)

namespace OptionTable

/- The letter that a long name means. -/
def letter? (table : OptionTable) (name : String) : Option Char :=
  match table.names.lookup name with
  | some letter => some letter
  | none =>
    match table.names.filter (fun (full, _) => full.startsWith name) with
    | [] => none
    | (_, letter) :: others =>
      if others.all (fun (_, other) => other == letter) then some letter
      else none

/- Whether an option has a value. -/
def isValued (table : OptionTable) (letter : Char) : Bool :=
  table.valued.toList.contains letter

/-
  The options in a bundle of letters.  The last one may want
  the next word as its value.
-/
def bundle (table : OptionTable) :
    List Char → Except Char (List (Char × String) × Option Char)
  | [] => .ok ([], none)
  | letter :: rest =>
    if table.isValued letter then
      if rest.isEmpty then .ok ([], some letter)
      else .ok ([(letter, String.ofList rest)], none)
    else if table.plain.toList.contains letter then
      (table.bundle rest).map fun (found, wanting) =>
        ((letter, "") :: found, wanting)
    else
      .error letter

end OptionTable

------------------------------------------------------------
-- Options
------------------------------------------------------------

/- The options of a program and its other words. -/
structure Options where
  /- The letters in their order, each with its value. -/
  letters : List (Char × String)
  words : List String
deriving DecidableEq, Repr

namespace Options

/- Options with one more in front. -/
def withLetter
    (letter : Char)
    (value : String)
    (options : Options) : Options :=
  { options with letters := (letter, value) :: options.letters }

/- Sort out the words that a program was started with. -/
def read (table : OptionTable) : List String → Except String Options
  | [] => .ok ⟨[], []⟩
  | "--" :: rest => .ok ⟨[], rest⟩
  | word :: rest =>
    match word.toList with
    | '-' :: '-' :: long =>
      let name := String.ofList (long.takeWhile (· != '='))
      let attached? := match long.dropWhile (· != '=') with
        | _ :: value => some (String.ofList value)
        | [] => none
      match table.letter? name with
      | none => .error ("unrecognized option '" ++ word ++ "'")
      | some letter =>
        match table.isValued letter, attached?, rest with
        | true, none, value :: rest =>
          (read table rest).map (withLetter letter value)
        | true, none, [] =>
          .error ("option '--" ++ name ++ "' requires an argument")
        | _, attached?, rest =>
          (read table rest).map (withLetter letter (attached?.getD ""))
    | '-' :: c :: letters =>
      match table.bundle (c :: letters), rest with
      | .error letter, _ =>
        .error ("invalid option -- '" ++ String.singleton letter ++ "'")
      | .ok (found, none), rest =>
        (read table rest).map fun options =>
          { options with letters := found ++ options.letters }
      | .ok (found, some letter), value :: rest =>
        (read table rest).map fun options =>
          { options with
            letters := found ++ (letter, value) :: options.letters }
      | .ok (_, some letter), [] =>
        .error ("option requires an argument -- '"
          ++ String.singleton letter ++ "'")
    | _ =>
      (read table rest).map fun options =>
        { options with words := word :: options.words }

/-
  The words up to the first one that is neither an option nor
  the value of one, and the words from there on.
-/
def leading (table : OptionTable) :
    List String → List String × List String
  | [] => ([], [])
  | "--" :: rest => ([], rest)
  | word :: rest =>
    let alone :=
      let (front, behind) := leading table rest
      (word :: front, behind)
    let withNext :=
      match rest with
      | value :: rest =>
        let (front, behind) := leading table rest
        (word :: value :: front, behind)
      | [] => ([word], [])
    match word.toList with
    | '-' :: '-' :: long =>
      if long.contains '=' then alone
      else if (table.letter? (String.ofList long)).any table.isValued then
        withNext
      else alone
    | '-' :: c :: letters =>
      match table.bundle (c :: letters) with
      | .ok (_, some _) => withNext
      | _ => alone
    | _ => ([], word :: rest)

/- Whether an option was given. -/
def has (options : Options) (letter : Char) : Bool :=
  options.letters.any (fun (given, _) => given == letter)

/- The option among some that was given last. -/
def last (options : Options) (letters : String) : Option Char :=
  (options.letters.filter
    (fun (given, _) => letters.toList.contains given)).getLast?.map Prod.fst

/- The value that an option was given last. -/
def value? (options : Options) (letter : Char) : Option String :=
  (options.letters.filter
    (fun (given, _) => given == letter)).getLast?.map Prod.snd

/- The values of an option, in their order. -/
def values (options : Options) (letter : Char) : List String :=
  (options.letters.filter
    (fun (given, _) => given == letter)).map Prod.snd

end Options

------------------------------------------------------------
-- Programs With Options
------------------------------------------------------------

/-
  Run a program once its options are sorted out.  Options that
  it does not know, and words that it cannot use, end it with
  the status for a wrong call.
-/
def withOptions
    (program : String)
    (status : Int)
    (table : OptionTable)
    (world : World)
    (start : Start)
    (action : Options → Except String Ran) : Ran :=
  let result := do
    let options ← Options.read table start.args
    action options
  match result with
  | .ok ran => ran
  | .error complaint =>
    Ran.complaining world status
      (program ++ ": " ++ complaint ++ "\nTry '" ++ program
        ++ " --help' for more information.")

end Sandbox

end TreeLint
