import TreeLint.Config.Entries

/-
  Configuration data before it has a meaning.

  Key definitions include:
    * `Value`
    * `Value.merge`
    * `Value.ofDocument?`
    * `Value.mergeLayers`

  Every layer of a configuration is a table of values.  Later
  layers are merged onto earlier ones: two tables are merged
  key by key, and otherwise the later value replaces the
  earlier one.
-/

------------------------------------------------------------
-- Values
------------------------------------------------------------

namespace TreeLint

/-
  A value of configuration data.  A number that is not an
  integer is kept as it was written, since no setting is such
  a number.
-/
inductive Value where
  | absent
  | boolean (b : Bool)
  | integer (n : Int)
  | real (literal : String)
  | character (c : Char)
  | text (s : String)
  | array (items : List Value)
  | table (entries : List (String × Value))
deriving Inhabited

namespace Value

------------------------------------------------------------
-- Merging
------------------------------------------------------------

mutual

/- The later value wins, but two tables are merged. -/
def merge : Value → Value → Value
  | table earlier, table later => table (mergeEntries earlier later)
  | _, later => later

/- Merge the entries of a later table into an earlier one. -/
def mergeEntries
    (earlier : List (String × Value)) :
    List (String × Value) → List (String × Value)
  | [] => earlier
  | (key, value) :: rest =>
    mergeEntries
      (Entries.put key
        (match Entries.find? key earlier with
          | some old => merge old value
          | none => value)
        earlier)
      rest

end

------------------------------------------------------------
-- Carriers
------------------------------------------------------------

/- A table with this key stands for the value under it. -/
def carrierKey : String := "___figment_value_value"

/- No table in a file may have this key. -/
def reservedKey : String := "___figment_value_id"

mutual

/-
  A value with each table that only carries another value
  replaced by that value; `none` if a key is reserved.
-/
def carried? : Value → Option Value
  | .array items => (carriedItems? items).map .array
  | .table entries =>
    match carriedEntries? entries with
    | none => none
    | some entries =>
      if (Entries.find? reservedKey entries).isSome then
        none
      else
        some ((Entries.find? carrierKey entries).getD (.table entries))
  | value => some value

/- The same for the items of an array. -/
def carriedItems? : List Value → Option (List Value)
  | [] => some []
  | item :: rest =>
    match carried? item, carriedItems? rest with
    | some item, some rest => some (item :: rest)
    | _, _ => none

/- The same for what stands under the keys of a table. -/
def carriedEntries? :
    List (String × Value) → Option (List (String × Value))
  | [] => some []
  | (key, value) :: rest =>
    match carried? value, carriedEntries? rest with
    | some value, some rest => some ((key, value) :: rest)
    | _, _ => none

end

/- The layer that a document makes up; its own keys are plain. -/
def ofDocument? : Value → Option Value
  | .table entries => (carriedEntries? entries).map .table
  | value => carried? value

------------------------------------------------------------
-- Layers
------------------------------------------------------------

/- Merge layers from the first to the last. -/
def mergeLayers (layers : List Value) : Value :=
  layers.foldl merge (table [])

/- A value under nested keys, and nothing else. -/
def nest : List String → Value → Value
  | [], value => value
  | key :: rest, value => table [(key, nest rest value)]

/- The value at the end of a path of keys. -/
def atPath? : List String → Value → Option Value
  | [], value => some value
  | key :: rest, table entries =>
    (Entries.find? key entries).bind (atPath? rest)
  | _ :: _, _ => none

end Value

end TreeLint
