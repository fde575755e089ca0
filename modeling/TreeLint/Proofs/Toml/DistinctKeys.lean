import TreeLint.Proofs.Config.Merging
import TreeLint.Toml.Document

/-
  No table of a TOML document has a key twice.

  Key definitions include:
    * `Toml.DistinctKeys`
    * `Toml.Draft.Distinct`

  Key theorems include:
    * `Toml.distinctKeys_assign?`
    * `Toml.distinctKeys_follow?`
    * `Toml.distinct_readValue?`
    * `Toml.Draft.Distinct.readLine?`
    * `Toml.exists_distinct_of_readDocument?`

  Whatever a line adds to a draft is put under its key, which
  keeps the keys of each table apart.  Only tables that a path
  of keys leads to are looked at, so what becomes of the
  elements of an array of tables does not matter.
-/

------------------------------------------------------------
-- Entries And Their Values
------------------------------------------------------------

namespace TreeLint

namespace Toml

theorem toValues_put
    (key : String)
    (item : Item)
    (entries : List (String × Item)) :
    toValues (Entries.put key item entries) =
      Entries.put key item.toValue (toValues entries) := by
  induction entries with
  | nil => simp only [Entries.put, toValues]
  | cons head rest ih =>
    obtain ⟨other, old⟩ := head
    by_cases hKey : other = key
    · simp only [Entries.put, toValues, if_pos hKey]
    · simp only [Entries.put, toValues, if_neg hKey, ih]

theorem find?_toValues
    (key : String)
    (entries : List (String × Item)) :
    Entries.find? key (toValues entries) =
      (Entries.find? key entries).map Item.toValue := by
  induction entries with
  | nil => simp only [Entries.find?, toValues, Option.map_none]
  | cons head rest ih =>
    obtain ⟨other, old⟩ := head
    by_cases hKey : other = key
    · simp only [Entries.find?, toValues, if_pos hKey, Option.map_some]
    · simp only [Entries.find?, toValues, if_neg hKey, ih]

/- Whether entries make up a value without a key twice. -/
def DistinctKeys (entries : List (String × Item)) : Prop :=
  (Value.table (toValues entries)).Distinct

namespace DistinctKeys

theorem nil : DistinctKeys [] := by
  unfold DistinctKeys
  rw [toValues]
  exact .empty

theorem put
    {entries : List (String × Item)}
    {item : Item}
    (hEntries : DistinctKeys entries)
    (hItem : item.toValue.Distinct)
    (key : String) :
    DistinctKeys (Entries.put key item entries) := by
  unfold DistinctKeys
  rw [toValues_put]
  exact Value.Distinct.put hEntries hItem key

theorem item
    {key : String}
    {entries : List (String × Item)}
    {item : Item}
    (hEntries : DistinctKeys entries)
    (hFound : Entries.find? key entries = some item) :
    item.toValue.Distinct := by
  have hValue :
      Entries.find? key (toValues entries) = some item.toValue := by
    rw [find?_toValues, hFound]
    rfl
  exact hEntries.values _ (Entries.mem_of_find?_eq_some hValue)

theorem inner
    {key : String}
    {entries : List (String × Item)}
    {origin : Origin}
    {inner : List (String × Item)}
    (hEntries : DistinctKeys entries)
    (hFound : Entries.find? key entries = some (.table origin inner)) :
    DistinctKeys inner := by
  have hItem := hEntries.item hFound
  rwa [Item.toValue] at hItem

theorem putTable
    {entries inner : List (String × Item)}
    (hEntries : DistinctKeys entries)
    (hInner : DistinctKeys inner)
    (key : String)
    (origin : Origin) :
    DistinctKeys (Entries.put key (.table origin inner) entries) := by
  refine hEntries.put ?_ key
  rw [Item.toValue]
  exact hInner

/- An array of tables is no table, whatever it holds. -/
theorem putTables
    {entries : List (String × Item)}
    (hEntries : DistinctKeys entries)
    (key : String)
    (elements : List (List (String × Item))) :
    DistinctKeys (Entries.put key (.tables elements) entries) := by
  refine hEntries.put ?_ key
  rw [Item.toValue]
  exact .plain nofun

/- A change of a table below a key, where it succeeds. -/
theorem changed
    {entries after : List (String × Item)}
    {change : Option (List (String × Item))}
    {key : String}
    {origin : Origin}
    (hEntries : DistinctKeys entries)
    (hChange : ∀ {inner}, change = some inner → DistinctKeys inner)
    (hAfter :
      change.map
          (fun inner => Entries.put key (.table origin inner) entries) =
        some after) :
    DistinctKeys after := by
  rcases Option.map_eq_some_iff.mp hAfter with ⟨inner, hInner, rfl⟩
  exact hEntries.putTable (hChange hInner) key origin

theorem changedTables
    {entries after : List (String × Item)}
    {change : Option (List (List (String × Item)))}
    {key : String}
    (hEntries : DistinctKeys entries)
    (hAfter :
      change.map
          (fun elements => Entries.put key (.tables elements) entries) =
        some after) :
    DistinctKeys after := by
  rcases Option.map_eq_some_iff.mp hAfter with ⟨elements, -, rfl⟩
  exact hEntries.putTables key elements

end DistinctKeys

------------------------------------------------------------
-- Changing A Draft
------------------------------------------------------------

/- An assignment, by induction on its keys. -/
theorem distinctKeys_assign?
    {v : Value}
    {keys : List String}
    {entries after : List (String × Item)}
    (hValue : v.Distinct)
    (hEntries : DistinctKeys entries)
    (hAfter : assign? v keys entries = some after) :
    DistinctKeys after := by
  fun_induction assign? v keys entries generalizing after with
  | case1 => cases hAfter
  | case2 => cases hAfter
  | case3 entries key =>
    cases hAfter
    refine hEntries.put ?_ _
    rw [Item.toValue]
    exact hValue
  | case4 key next rest entries hFound ih =>
    exact hEntries.changed (ih .nil) hAfter
  | case5 key next rest entries inner hFound ih =>
    exact hEntries.changed (ih (hEntries.inner hFound)) hAfter
  | case6 => cases hAfter
  | case7 key next rest entries inner hFound hRest ih =>
    exact hEntries.changed (ih (hEntries.inner hFound)) hAfter
  | case8 => cases hAfter
  | case9 => exact hEntries.changedTables hAfter
  | case10 => cases hAfter

/-
  A change at the end of the keys of a header, by induction on
  these keys.
-/
theorem distinctKeys_follow?
    {change : List (String × Item) → Option (List (String × Item))}
    {keys : List String}
    {entries after : List (String × Item)}
    (hChange :
      ∀ {before changed : List (String × Item)},
        DistinctKeys before →
        change before = some changed →
        DistinctKeys changed)
    (hEntries : DistinctKeys entries)
    (hAfter : follow? change keys entries = some after) :
    DistinctKeys after := by
  fun_induction follow? change keys entries generalizing after with
  | case1 entries => exact hChange hEntries hAfter
  | case2 key rest entries hFound ih =>
    exact hEntries.changed (ih .nil) hAfter
  | case3 key rest entries origin inner hFound ih =>
    exact hEntries.changed (ih (hEntries.inner hFound)) hAfter
  | case4 => exact hEntries.changedTables hAfter
  | case5 => cases hAfter

theorem distinctKeys_openTable?
    {key : String}
    {entries after : List (String × Item)}
    (hEntries : DistinctKeys entries)
    (hAfter : openTable? key entries = some after) :
    DistinctKeys after := by
  unfold openTable? at hAfter
  split at hAfter
  · cases hAfter
    exact hEntries.putTable .nil key .header
  · next inner hFound =>
    cases hAfter
    exact hEntries.putTable (hEntries.inner hFound) key .header
  · cases hAfter

theorem distinctKeys_openElement?
    {key : String}
    {entries after : List (String × Item)}
    (hEntries : DistinctKeys entries)
    (hAfter : openElement? key entries = some after) :
    DistinctKeys after := by
  unfold openElement? at hAfter
  split at hAfter
  · cases hAfter
    exact hEntries.putTables key _
  · cases hAfter
    exact hEntries.putTables key _
  · cases hAfter

namespace Draft

/- Whether a draft has no key twice. -/
def Distinct (draft : Draft) : Prop :=
  DistinctKeys draft.root

theorem Distinct.assign?
    {draft after : Draft}
    {keys : List String}
    {v : Value}
    (hDraft : draft.Distinct)
    (hValue : v.Distinct)
    (hAfter : draft.assign? keys v = some after) :
    after.Distinct := by
  rcases Option.map_eq_some_iff.mp hAfter with ⟨root, hRoot, rfl⟩
  exact
    distinctKeys_follow? (distinctKeys_assign? hValue) hDraft hRoot

theorem Distinct.openTable?
    {draft after : Draft}
    {keys : List String}
    (hDraft : draft.Distinct)
    (hAfter : draft.openTable? keys = some after) :
    after.Distinct := by
  unfold Draft.openTable? at hAfter
  split at hAfter
  · cases hAfter
  · rcases Option.map_eq_some_iff.mp hAfter with ⟨root, hRoot, rfl⟩
    exact distinctKeys_follow? distinctKeys_openTable? hDraft hRoot

theorem Distinct.openElement?
    {draft after : Draft}
    {keys : List String}
    (hDraft : draft.Distinct)
    (hAfter : draft.openElement? keys = some after) :
    after.Distinct := by
  unfold Draft.openElement? at hAfter
  split at hAfter
  · cases hAfter
  · rcases Option.map_eq_some_iff.mp hAfter with ⟨root, hRoot, rfl⟩
    exact distinctKeys_follow? distinctKeys_openElement? hDraft hRoot

end Draft

------------------------------------------------------------
-- Reading Values
------------------------------------------------------------

/- A date is a table with a single key. -/
theorem distinct_scalar?
    {text : List Char}
    {v : Value}
    (hScalar : scalar? text = some v) :
    v.Distinct := by
  simp only [scalar?] at hScalar
  split at hScalar
  · cases hScalar
    exact .plain nofun
  split at hScalar
  · cases hScalar
    exact .plain nofun
  split at hScalar
  · cases hScalar
    have hText : (Value.text (String.ofList (momentText text))).Distinct :=
      .plain nofun
    exact Value.Distinct.empty.put hText momentKey
  split at hScalar
  · cases hScalar
    exact .plain nofun
  split at hScalar
  · cases hScalar
    exact .plain nofun
  · cases hScalar

/-
  A table in braces, by induction on its entries, where every
  value that is read in it has no key twice.
-/
theorem distinctKeys_readEntries?
    {readItem? : List Char → Option (Value × List Char)}
    {text behind : List Char}
    {entries after : List (String × Item)}
    (hItem :
      ∀ {start : List Char} {v : Value} {rest : List Char},
        readItem? start = some (v, rest) → v.Distinct)
    (hEntries : DistinctKeys entries)
    (hAfter : readEntries? readItem? text entries = some (after, behind)) :
    DistinctKeys after := by
  fun_induction readEntries? readItem? text entries generalizing after with
  | case1 => cases hAfter
  | case2 text entries keys sign hPath v rest hRead assigned =>
    cases hAfter
    exact distinctKeys_assign? (hItem hRead) hEntries ‹_›
  | case3 text entries keys sign hPath v rest hRead assigned _ _ _ _ ih =>
    exact ih (distinctKeys_assign? (hItem hRead) hEntries ‹_›) hAfter
  | case4 => cases hAfter
  | case5 => cases hAfter
  | case6 => cases hAfter

/- A value, by induction on how deep it may be nested. -/
theorem distinct_readValue?
    {depth : Nat}
    {text behind : List Char}
    {v : Value}
    (hValue : readValue? depth text = some (v, behind)) :
    v.Distinct := by
  induction depth using Nat.strongRecOn generalizing text behind v with
  | ind depth ih =>
    revert hValue ih
    fun_cases readValue? depth text with
    | case1 => nofun
    | case2 rest inner =>
      intro ih hValue
      rcases Option.map_eq_some_iff.mp hValue with ⟨⟨items, _⟩, -, hEq⟩
      cases hEq
      exact .plain nofun
    | case3 => nofun
    | case4 =>
      intro ih hValue
      cases hValue
      exact .empty
    | case5 rest inner =>
      intro ih hValue
      rcases Option.map_eq_some_iff.mp hValue with
        ⟨⟨entries, _⟩, hEntries, hEq⟩
      cases hEq
      exact
        distinctKeys_readEntries? (ih inner (Nat.lt_succ_self inner))
          .nil hEntries
    | case6 | case7 =>
      intro ih hValue
      rcases Option.map_eq_some_iff.mp hValue with ⟨⟨s, _⟩, -, hEq⟩
      cases hEq
      exact .plain nofun
    | case8 =>
      intro ih hValue
      rcases Option.map_eq_some_iff.mp hValue with ⟨_, hScalar, hEq⟩
      cases hEq
      exact distinct_scalar? hScalar

------------------------------------------------------------
-- Reading Lines
------------------------------------------------------------

theorem Draft.Distinct.readLine?
    {draft after : Draft}
    {text behind : List Char}
    (hDraft : draft.Distinct)
    (hAfter : Toml.readLine? draft text = some (after, behind)) :
    after.Distinct := by
  revert hAfter
  fun_cases Toml.readLine? draft text with
  | case1 | case2 | case3 =>
    intro hAfter
    cases hAfter
    exact hDraft
  | case4 =>
    intro hAfter
    rcases Option.map_eq_some_iff.mp hAfter with ⟨_, -, hEq⟩
    cases hEq
    exact hDraft
  | case5 rest hStart keys _ hPath opened _ _ hOpened =>
    intro hAfter
    cases hAfter
    exact hDraft.openElement? hOpened
  | case6 => nofun
  | case7 => nofun
  | case8 rest _ hStart keys _ hPath opened _ _ hOpened =>
    intro hAfter
    cases hAfter
    exact hDraft.openTable? hOpened
  | case9 => nofun
  | case10 => nofun
  | case11 => nofun
  | case12 keys sign v _ hValue assigned _ _ hAssigned =>
    intro hAfter
    cases hAfter
    exact hDraft.assign? (distinct_readValue? hValue) hAssigned
  | case13 => nofun
  | case14 => nofun

/- The lines of a text, one after the other. -/
theorem Draft.Distinct.readLines?
    {draft after : Draft}
    {text : List Char}
    (hDraft : draft.Distinct)
    (hAfter : Toml.readLines? draft text = some after) :
    after.Distinct := by
  fun_induction Toml.readLines? draft text generalizing after with
  | case1 =>
    cases hAfter
    exact hDraft
  | case2 => cases hAfter
  | case3 draft text hText next rest hLine hShorter ih =>
    exact ih (hDraft.readLine? hLine) hAfter
  | case4 => cases hAfter

/- What a document describes is a table without a key twice. -/
theorem exists_distinct_of_readDocument?
    {text : String}
    {document : Value}
    (hDocument : readDocument? text = some document) :
    ∃ entries,
      document = .table entries ∧ document.Distinct := by
  rcases Option.map_eq_some_iff.mp hDocument with ⟨draft, hDraft, rfl⟩
  have hEmpty : Draft.empty.Distinct := .nil
  exact ⟨_, rfl, hEmpty.readLines? hDraft⟩

end Toml

end TreeLint
