import TreeLint.Config.Basic
import TreeLint.Config.Value

/-
  Reading a configuration out of configuration data.

  Key definitions include:
    * `DecodeError`
    * `LinterConfig.decode`
    * `Config.decode`

  Tables are read by the names of their fields, in ascending
  order of the names, and the first field that cannot be read
  is the error; only then is it asked whether a field without
  a default is missing.  A table may also be written as the
  array of its fields in the order of their declaration.
-/

------------------------------------------------------------
-- Errors
------------------------------------------------------------

namespace TreeLint

/- What is wrong with a value. -/
inductive Fault where
  | wrongType
  | missingField (name : String)
  | unknownName (found : String)
  | tooShort
deriving DecidableEq, Repr

/- A fault with the keys and indexes that lead to it. -/
structure DecodeError where
  fault : Fault
  path : List String
deriving DecidableEq, Repr

/- A reading of values as something else. -/
abbrev Decoder (α : Type) := Value → Except DecodeError α

namespace Decode

/- A fault of the value itself. -/
def fail {α : Type} (fault : Fault) : Except DecodeError α :=
  .error ⟨fault, []⟩

/- The error of a part, seen from the whole. -/
def within
    {α : Type}
    (key : String) :
    Except DecodeError α → Except DecodeError α
  | .ok a => .ok a
  | .error e => .error { e with path := key :: e.path }

------------------------------------------------------------
-- Plain Values
------------------------------------------------------------

/- A text; a single character is one too. -/
def text : Decoder String
  | .text s => .ok s
  | .character c => .ok (String.singleton c)
  | _ => fail .wrongType

/- A text that may be absent. -/
def textOrAbsent : Decoder (Option String)
  | .absent => .ok none
  | value => (text value).map some

/- The items of an array, counting from an index. -/
def items
    {α : Type}
    (decode : Decoder α) :
    Nat → List Value → Except DecodeError (List α)
  | _, [] => .ok []
  | index, value :: rest =>
    match within (toString index) (decode value) with
    | .error e => .error e
    | .ok a =>
      match items decode (index + 1) rest with
      | .error e => .error e
      | .ok as => .ok (a :: as)

/- An array of values of one kind. -/
def listOf {α : Type} (decode : Decoder α) : Decoder (List α)
  | .array values => items decode 0 values
  | _ => fail .wrongType

/- An array of texts. -/
def texts : Decoder (List String) :=
  listOf text

/- The texts under the keys of a table. -/
def textEntries :
    List (String × Value) → Except DecodeError (List (String × String))
  | [] => .ok []
  | (key, value) :: rest =>
    match within key (text value) with
    | .error e => .error e
    | .ok s =>
      match textEntries rest with
      | .error e => .error e
      | .ok entries => .ok ((key, s) :: entries)

/- A table of texts. -/
def dictionary : Decoder Dictionary
  | .table entries =>
    (textEntries
      (entries.mergeSort (fun a b => decide (a.1 ≤ b.1)))).map
      Dictionary.ofList
  | _ => fail .wrongType

/- The first key of a table in ascending order. -/
def leastEntry? : List (String × Value) → Option (String × Value)
  | [] => none
  | entry :: rest =>
    match leastEntry? rest with
    | none => some entry
    | some least => some (if entry.1 ≤ least.1 then entry else least)

/-
  One of finitely many names.  A table with the name as its
  key would carry data with it, and there are none.
-/
def oneOf {α : Type} (ofName? : String → Option α) : Decoder α
  | .text s =>
    match ofName? s with
    | some a => .ok a
    | none => fail (.unknownName s)
  | .table entries =>
    match leastEntry? entries with
    | none => fail .wrongType
    | some (key, data) =>
      within key <|
        match ofName? key, data with
        | some a, .absent => .ok a
        | some _, _ => fail .wrongType
        | none, _ => fail (.unknownName key)
  | _ => fail .wrongType

------------------------------------------------------------
-- Fields
------------------------------------------------------------

/- The field of a table, if it is there. -/
def field?
    {α : Type}
    (entries : List (String × Value))
    (name : String)
    (decode : Decoder α) : Except DecodeError (Option α) :=
  match Entries.find? name entries with
  | none => .ok none
  | some value => (within name (decode value)).map some

/- A field without a default. -/
def required
    {α : Type}
    (name : String) :
    Option α → Except DecodeError α
  | some a => .ok a
  | none => fail (.missingField name)

/- The field at a position of an array, if it is there. -/
def item?
    {α : Type}
    (values : List Value)
    (index : Nat)
    (decode : Decoder α) : Except DecodeError (Option α) :=
  match values[index]? with
  | none => .ok none
  | some value => (within (toString index) (decode value)).map some

/- A position without a default. -/
def item
    {α : Type}
    (values : List Value)
    (index : Nat)
    (decode : Decoder α) : Except DecodeError α :=
  match values[index]? with
  | none => fail .tooShort
  | some value => within (toString index) (decode value)

end Decode

------------------------------------------------------------
-- Linters
------------------------------------------------------------

namespace LinterConfig

/- A linter written as a table. -/
def decodeTable
    (entries : List (String × Value)) :
    Except DecodeError LinterConfig := do
  let args ← Decode.field? entries "args" Decode.texts
  let command ← Decode.field? entries "command" Decode.text
  let cwd ← Decode.field? entries "cwd" Decode.textOrAbsent
  let env ← Decode.field? entries "env" Decode.dictionary
  let extensions ← Decode.field? entries "extensions" Decode.texts
  let key ← Decode.field? entries "key" (Decode.oneOf Language.ofName?)
  let policy ← Decode.field? entries "policy" (Decode.oneOf Policy.ofName?)
  let roots ← Decode.field? entries "roots" Decode.texts
  let key ← Decode.required "key" key
  let roots ← Decode.required "roots" roots
  let extensions ← Decode.required "extensions" extensions
  let command ← Decode.required "command" command
  let policy ← Decode.required "policy" policy
  return {
    key, roots, extensions, command, policy
    args := args.getD []
    env := env.getD Dictionary.empty
    cwd := cwd.join }

/- A linter written as the array of its fields. -/
def decodeArray
    (values : List Value) : Except DecodeError LinterConfig := do
  let key ← Decode.item values 0 (Decode.oneOf Language.ofName?)
  let roots ← Decode.item values 1 Decode.texts
  let extensions ← Decode.item values 2 Decode.texts
  let command ← Decode.item values 3 Decode.text
  let args ← Decode.item? values 4 Decode.texts
  let env ← Decode.item? values 5 Decode.dictionary
  let cwd ← Decode.item? values 6 Decode.textOrAbsent
  let policy ← Decode.item values 7 (Decode.oneOf Policy.ofName?)
  return {
    key, roots, extensions, command, policy
    args := args.getD []
    env := env.getD Dictionary.empty
    cwd := cwd.join }

/- A linter. -/
def decode : Decoder LinterConfig
  | .table entries => decodeTable entries
  | .array values => decodeArray values
  | _ => Decode.fail .wrongType

end LinterConfig

------------------------------------------------------------
-- Configurations
------------------------------------------------------------

namespace Config

/- The general settings, which are the source root alone. -/
def decodeGeneral : Decoder String
  | .table entries => do
    let root ← Decode.field? entries "source_root" Decode.text
    return root.getD ""
  | .array values => do
    let root ← Decode.item? values 0 Decode.text
    return root.getD ""
  | _ => Decode.fail .wrongType

/- A configuration. -/
def decode : Decoder Config
  | .table entries => do
    let blacklist ← Decode.field? entries "blacklist" Decode.texts
    let general ← Decode.field? entries "general" decodeGeneral
    let linters ← Decode.field? entries "linters"
      (Decode.listOf LinterConfig.decode)
    return ⟨general.getD "", blacklist.getD [], linters.getD []⟩
  | .array values => do
    let general ← Decode.item? values 0 decodeGeneral
    let blacklist ← Decode.item? values 1 Decode.texts
    let linters ← Decode.item? values 2
      (Decode.listOf LinterConfig.decode)
    return ⟨general.getD "", blacklist.getD [], linters.getD []⟩
  | _ => Decode.fail .wrongType

end Config

end TreeLint
