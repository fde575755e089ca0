import TreeLint.Config.Value

/-
  A TOML document while it is read.

  Key definitions include:
    * `Toml.Item`
    * `Toml.assign?`
    * `Toml.openTable?`
    * `Toml.openElement?`
    * `Toml.Draft`

  Tables come into being in three ways: by a header of their
  own, as a table on the way to another one, or by a key with
  dots.  How a table came into being decides who may still
  add to it, and nothing is ever defined twice.
-/

------------------------------------------------------------
-- Items
------------------------------------------------------------

namespace TreeLint

namespace Toml

/- How a table came into being. -/
inductive Origin where
  | header
  | passedThrough
  | dottedKey
deriving DecidableEq

/- What stands under a key. -/
inductive Item where
  | value (v : Value)
  | table (origin : Origin) (entries : List (String × Item))
  | tables (elements : List (List (String × Item)))

mutual

/- The value that an item is in the end. -/
def Item.toValue : Item → Value
  | .value v => v
  | .table _ entries => .table (toValues entries)
  | .tables elements => .array (toTables elements)

/- The values of entries. -/
def toValues : List (String × Item) → List (String × Value)
  | [] => []
  | (key, item) :: rest => (key, item.toValue) :: toValues rest

/- The tables of an array. -/
def toTables : List (List (String × Item)) → List Value
  | [] => []
  | entries :: rest => .table (toValues entries) :: toTables rest

end

------------------------------------------------------------
-- Changing Items
------------------------------------------------------------

/- Change the last element of an array of tables. -/
def changeLast?
    (change : List (String × Item) → Option (List (String × Item))) :
    List (List (String × Item)) → Option (List (List (String × Item)))
  | [] => none
  | [last] => (change last).map (fun entries => [entries])
  | first :: rest => (changeLast? change rest).map (first :: ·)

/-
  Give a value to a key with dots.  All keys but the last
  name tables; these must have come into being by keys with
  dots, and only further up may a table be one that was
  passed through or the last one of an array.
-/
def assign?
    (v : Value) :
    List String → List (String × Item) → Option (List (String × Item))
  | [], _ => none
  | [key], entries =>
    match Entries.find? key entries with
    | some _ => none
    | none => some (Entries.put key (.value v) entries)
  | key :: next :: rest, entries =>
    match Entries.find? key entries with
    | none =>
      (assign? v (next :: rest) []).map
        (fun inner => Entries.put key (.table .dottedKey inner) entries)
    | some (.table .dottedKey inner) =>
      (assign? v (next :: rest) inner).map
        (fun inner => Entries.put key (.table .dottedKey inner) entries)
    | some (.table .passedThrough inner) =>
      if rest.isEmpty then
        none
      else
        (assign? v (next :: rest) inner).map
          (fun inner =>
            Entries.put key (.table .passedThrough inner) entries)
    | some (.tables elements) =>
      if rest.isEmpty then
        none
      else
        (changeLast? (assign? v (next :: rest)) elements).map
          (fun elements => Entries.put key (.tables elements) entries)
    | some _ => none

/-
  Follow the keys of a header and change the table at their
  end.  Missing tables come into being on the way.
-/
def follow?
    (change : List (String × Item) → Option (List (String × Item))) :
    List String → List (String × Item) → Option (List (String × Item))
  | [], entries => change entries
  | key :: rest, entries =>
    match Entries.find? key entries with
    | none =>
      (follow? change rest []).map
        (fun inner =>
          Entries.put key (.table .passedThrough inner) entries)
    | some (.table origin inner) =>
      (follow? change rest inner).map
        (fun inner => Entries.put key (.table origin inner) entries)
    | some (.tables elements) =>
      (changeLast? (follow? change rest) elements).map
        (fun elements => Entries.put key (.tables elements) entries)
    | some (.value _) => none

/- Define the table under a key. -/
def openTable?
    (key : String)
    (entries : List (String × Item)) : Option (List (String × Item)) :=
  match Entries.find? key entries with
  | none => some (Entries.put key (.table .header []) entries)
  | some (.table .passedThrough inner) =>
    some (Entries.put key (.table .header inner) entries)
  | some _ => none

/- Add a table to the array of tables under a key. -/
def openElement?
    (key : String)
    (entries : List (String × Item)) : Option (List (String × Item)) :=
  match Entries.find? key entries with
  | none => some (Entries.put key (.tables [[]]) entries)
  | some (.tables elements) =>
    some (Entries.put key (.tables (elements ++ [[]])) entries)
  | some _ => none

------------------------------------------------------------
-- Drafts
------------------------------------------------------------

/-
  What has been read so far, and the keys of the last header,
  under which the next assignments go.
-/
structure Draft where
  root : List (String × Item)
  header : List String

namespace Draft

/- Before anything is read. -/
def empty : Draft :=
  ⟨[], []⟩

/- The table in which a key with dots is looked for. -/
def assign? (draft : Draft) (keys : List String) (v : Value) :
    Option Draft :=
  (follow? (Toml.assign? v keys) draft.header draft.root).map
    (fun root => { draft with root })

/- Go on under the header of a table. -/
def openTable? (draft : Draft) (keys : List String) : Option Draft :=
  match keys.getLast? with
  | none => none
  | some key =>
    (follow? (Toml.openTable? key) keys.dropLast draft.root).map
      (fun root => ⟨root, keys⟩)

/- Go on under the header of an array of tables. -/
def openElement? (draft : Draft) (keys : List String) : Option Draft :=
  match keys.getLast? with
  | none => none
  | some key =>
    (follow? (Toml.openElement? key) keys.dropLast draft.root).map
      (fun root => ⟨root, keys⟩)

end Draft

end Toml

end TreeLint
