import Mathlib.Data.List.Induction
import TreeLint.Config.Value

/-
  What a setting is after layers have been merged.

  Key definitions include:
    * `Value.IsTable`
    * `Value.Distinct`
    * `Value.Touches`

  Key theorems include:
    * `Value.find?_mergeEntries`
    * `Value.atPath?_merge_iff`
    * `Value.atPath?_mergeLayers_iff`
    * `Value.Distinct.mergeLayers`

  A layer touches a path of keys if it has a value at its end,
  or something that is no table on the way to it.  Merging a
  layer decides about the paths that it touches and about no
  others, so each setting is that of the last layer which
  touches it.
-/

------------------------------------------------------------
-- Keys Of Entries
------------------------------------------------------------

namespace TreeLint

namespace Entries

variable {α : Type}

/- The keys of entries, in order. -/
def keys (entries : List (String × α)) : List String :=
  entries.map Prod.fst

theorem mem_of_find?_eq_some
    {key : String}
    {value : α}
    {entries : List (String × α)}
    (hFound : find? key entries = some value) :
    (key, value) ∈ entries := by
  induction entries with
  | nil => cases hFound
  | cons head rest ih =>
    obtain ⟨other, held⟩ := head
    simp only [find?] at hFound
    split at hFound
    · next hEq =>
      cases hFound
      exact hEq ▸ List.mem_cons_self
    · exact List.mem_cons_of_mem _ (ih hFound)

theorem find?_eq_none_iff
    {key : String}
    {entries : List (String × α)} :
    find? key entries = none ↔ key ∉ keys entries := by
  induction entries with
  | nil => simp [find?, keys]
  | cons head rest ih =>
    obtain ⟨other, held⟩ := head
    by_cases hKey : other = key
    · simp [find?, keys, hKey]
    · simp only [find?, if_neg hKey, ih]
      simp [keys, Ne.symm hKey]

theorem mem_put
    {key : String}
    {value : α}
    {entries : List (String × α)}
    {entry : String × α}
    (hEntry : entry ∈ put key value entries) :
    entry = (key, value) ∨ entry ∈ entries := by
  induction entries with
  | nil => exact .inl (List.mem_singleton.mp hEntry)
  | cons head rest ih =>
    obtain ⟨other, held⟩ := head
    simp only [put] at hEntry
    split at hEntry
    · rcases List.mem_cons.mp hEntry with rfl | hRest
      · exact .inl rfl
      · exact .inr (List.mem_cons_of_mem _ hRest)
    · rcases List.mem_cons.mp hEntry with rfl | hLater
      · exact .inr List.mem_cons_self
      · rcases ih hLater with hNew | hOld
        · exact .inl hNew
        · exact .inr (List.mem_cons_of_mem _ hOld)

/- A key joins the others at their end, unless it is there. -/
theorem keys_put
    (key : String)
    (value : α)
    (entries : List (String × α)) :
    keys (put key value entries) =
      if key ∈ keys entries then keys entries
      else keys entries ++ [key] := by
  induction entries with
  | nil => rfl
  | cons head rest ih =>
    obtain ⟨other, held⟩ := head
    unfold keys at ih ⊢
    by_cases hKey : other = key
    · simp [put, hKey]
    · simp only [put, if_neg hKey, List.map_cons, ih]
      by_cases hRest : key ∈ rest.map Prod.fst
      · simp [hRest]
      · simp [hRest, Ne.symm hKey]

theorem nodup_keys_put
    {entries : List (String × α)}
    (hKeys : (keys entries).Nodup)
    (key : String)
    (value : α) :
    (keys (put key value entries)).Nodup := by
  rw [keys_put]
  split
  · exact hKeys
  · next hNew =>
    rw [List.nodup_append]
    refine ⟨hKeys, List.nodup_cons.mpr ⟨nofun, List.nodup_nil⟩, ?_⟩
    intro other hOther new hNew' hEq
    rw [List.mem_singleton.mp hNew'] at hEq
    exact hNew (hEq ▸ hOther)

end Entries

------------------------------------------------------------
-- Tables With Distinct Keys
------------------------------------------------------------

namespace Value

/- Whether a value holds other values under keys. -/
def IsTable (value : Value) : Prop :=
  ∃ entries, value = .table entries

/-
  A value in which no table has a key twice.  The tables in
  arrays do not matter, since no path of keys leads there.
-/
inductive Distinct : Value → Prop where
  | plain
      {value : Value}
      (hPlain : ¬ value.IsTable) :
      Distinct value
  | table
      {entries : List (String × Value)}
      (hKeys : (Entries.keys entries).Nodup)
      (hValues : ∀ entry ∈ entries, Distinct entry.2) :
      Distinct (.table entries)

theorem Distinct.keys
    {entries : List (String × Value)}
    (hTable : Distinct (.table entries)) :
    (Entries.keys entries).Nodup := by
  cases hTable with
  | plain hPlain => exact absurd ⟨entries, rfl⟩ hPlain
  | table hKeys hValues => exact hKeys

theorem Distinct.values
    {entries : List (String × Value)}
    (hTable : Distinct (.table entries)) :
    ∀ entry ∈ entries, entry.2.Distinct := by
  cases hTable with
  | plain hPlain => exact absurd ⟨entries, rfl⟩ hPlain
  | table hKeys hValues => exact hValues

theorem Distinct.empty : Distinct (.table []) :=
  .table List.nodup_nil nofun

/- A table may get a value under a key. -/
theorem Distinct.put
    {entries : List (String × Value)}
    {value : Value}
    (hTable : Distinct (.table entries))
    (hValue : value.Distinct)
    (key : String) :
    Distinct (.table (Entries.put key value entries)) := by
  refine .table (Entries.nodup_keys_put hTable.keys key value) ?_
  intro entry hEntry
  rcases Entries.mem_put hEntry with rfl | hOld
  · exact hValue
  · exact hTable.values entry hOld

------------------------------------------------------------
-- Merging Two Values
------------------------------------------------------------

theorem merge_of_not_isTable
    {earlier later : Value}
    (hPlain : ¬ earlier.IsTable ∨ ¬ later.IsTable) :
    merge earlier later = later := by
  unfold merge
  split
  · rcases hPlain with hPlain | hPlain
    · exact absurd ⟨_, rfl⟩ hPlain
    · exact absurd ⟨_, rfl⟩ hPlain
  · rfl

/-
  What stands under a key of two merged tables, by induction
  on the entries of the later one, none of which comes again.
-/
theorem find?_mergeEntries
    {earlier later : List (String × Value)}
    (hKeys : (Entries.keys later).Nodup)
    (key : String) :
    Entries.find? key (mergeEntries earlier later) =
      match Entries.find? key earlier, Entries.find? key later with
      | old, none => old
      | none, some value => some value
      | some old, some value => some (merge old value) := by
  induction later generalizing earlier with
  | nil =>
    rw [mergeEntries]
    cases Entries.find? key earlier <;> rfl
  | cons head rest ih =>
    obtain ⟨first, value⟩ := head
    obtain ⟨hNew, hRest⟩ := List.nodup_cons.mp hKeys
    rw [mergeEntries, ih hRest]
    by_cases hKey : first = key
    · subst hKey
      have hNone : Entries.find? first rest = none :=
        Entries.find?_eq_none_iff.mpr hNew
      rw [Entries.find?_put_self, hNone]
      cases Entries.find? first earlier <;> simp [Entries.find?]
    · rw [Entries.find?_put_of_ne (Ne.symm hKey)]
      simp [Entries.find?, hKey]

/-
  Merging entries keeps keys apart if merging each value of
  the later ones does, by induction on these.
-/
theorem Distinct.mergeEntries
    {earlier later : List (String × Value)}
    (hEarlier : Distinct (.table earlier))
    (hLater : ∀ entry ∈ later, entry.2.Distinct)
    (hMerge :
      ∀ entry ∈ later, ∀ {old : Value},
        old.Distinct → (old.merge entry.2).Distinct) :
    Distinct (.table (Value.mergeEntries earlier later)) := by
  induction later generalizing earlier with
  | nil =>
    rw [Value.mergeEntries]
    exact hEarlier
  | cons head rest ih =>
    obtain ⟨key, value⟩ := head
    have hHead : (key, value) ∈ (key, value) :: rest :=
      List.mem_cons_self
    rw [Value.mergeEntries]
    refine
      ih (hEarlier.put ?_ key)
        (fun entry hEntry => hLater entry (List.mem_cons_of_mem _ hEntry))
        (fun entry hEntry => hMerge entry (List.mem_cons_of_mem _ hEntry))
    split
    · next held hHeld =>
      have hOld : held.Distinct :=
        hEarlier.values _ (Entries.mem_of_find?_eq_some hHeld)
      exact hMerge _ hHead hOld
    · exact hLater _ hHead

/- Merging keeps keys apart, by induction on the later value. -/
theorem Distinct.merge
    {earlier later : Value}
    (hEarlier : earlier.Distinct)
    (hLater : later.Distinct) :
    (earlier.merge later).Distinct := by
  induction hLater generalizing earlier with
  | plain hPlain =>
    rw [merge_of_not_isTable (.inr hPlain)]
    exact .plain hPlain
  | table hKeys hValues ih =>
    by_cases hTable : earlier.IsTable
    · obtain ⟨old, rfl⟩ := hTable
      rw [Value.merge]
      exact
        hEarlier.mergeEntries hValues
          (fun entry hEntry {held} hHeld => ih entry hEntry hHeld)
    · rw [merge_of_not_isTable (.inl hTable)]
      exact .table hKeys hValues

------------------------------------------------------------
-- Touching A Path
------------------------------------------------------------

/-
  Whether a layer says something about the value at the end of
  a path of keys: it has a value there, or something that is
  no table on the way.
-/
def Touches (layer : Value) (path : List String) : Prop :=
  (∃ value, layer.atPath? path = some value) ∨
  ∃ front behind value,
    path = front ++ behind ∧
    behind ≠ [] ∧
    layer.atPath? front = some value ∧
    ¬ value.IsTable

theorem touches_of_not_isTable
    {layer : Value}
    (hPlain : ¬ layer.IsTable)
    (path : List String) :
    layer.Touches path := by
  cases path with
  | nil => exact .inl ⟨layer, rfl⟩
  | cons key rest =>
    exact
      .inr ⟨[], key :: rest, layer, rfl, List.cons_ne_nil _ _, rfl,
        hPlain⟩

/- A table touches what lies below its keys. -/
theorem touches_table_cons_iff
    {entries : List (String × Value)}
    {key : String}
    {rest : List String} :
    Touches (.table entries) (key :: rest) ↔
      ∃ value,
        Entries.find? key entries = some value ∧ value.Touches rest := by
  constructor
  · rintro (⟨value, hValue⟩ | ⟨front, behind, value, hPath, hBehind,
      hValue, hPlain⟩)
    · rw [atPath?] at hValue
      rcases Option.bind_eq_some_iff.mp hValue with
        ⟨found, hFound, hRest⟩
      exact ⟨found, hFound, .inl ⟨value, hRest⟩⟩
    · cases front with
      | nil =>
        cases hValue
        exact absurd ⟨entries, rfl⟩ hPlain
      | cons first others =>
        rw [List.cons_append, List.cons.injEq] at hPath
        obtain ⟨rfl, hRest⟩ := hPath
        rw [atPath?] at hValue
        rcases Option.bind_eq_some_iff.mp hValue with
          ⟨found, hFound, hOthers⟩
        exact
          ⟨found, hFound,
            .inr ⟨others, behind, value, hRest, hBehind, hOthers,
              hPlain⟩⟩
  · rintro ⟨found, hFound, ⟨value, hValue⟩ | ⟨front, behind, value,
      hPath, hBehind, hValue, hPlain⟩⟩
    · exact .inl ⟨value, by rw [atPath?, hFound]; exact hValue⟩
    · refine
        .inr ⟨key :: front, behind, value, ?_, hBehind, ?_, hPlain⟩
      · rw [hPath, List.cons_append]
      · rw [atPath?, hFound]
        exact hValue

theorem touches_of_atPath?
    {layer value : Value}
    {path : List String}
    (hValue : layer.atPath? path = some value) :
    layer.Touches path :=
  .inl ⟨value, hValue⟩

/- No path leads into a value that is no table. -/
theorem eq_nil_of_atPath?
    {layer value : Value}
    {path : List String}
    (hPlain : ¬ layer.IsTable)
    (hValue : layer.atPath? path = some value) :
    path = [] := by
  cases path with
  | nil => rfl
  | cons key rest =>
    unfold atPath? at hValue
    split at hValue
    · next hEq => cases hEq
    · exact absurd ⟨_, rfl⟩ hPlain
    · cases hValue

------------------------------------------------------------
-- Settings After Merging
------------------------------------------------------------

/-
  Where the later value is not merged but put in the place of
  the earlier one, it touches whatever was set before.
-/
theorem atPath?_iff_of_replaced
    {earlier later : Value}
    (hPlain : ¬ earlier.IsTable ∨ ¬ later.IsTable)
    (path : List String)
    (value : Value) :
    later.atPath? path = some value ↔
      later.Touches path ∧ later.atPath? path = some value ∨
      ¬ later.Touches path ∧ earlier.atPath? path = some value := by
  have hTouches :
      earlier.atPath? path = some value → later.Touches path := by
    intro hEarlier
    rcases hPlain with hOld | hNew
    · rw [eq_nil_of_atPath? hOld hEarlier]
      exact .inl ⟨later, rfl⟩
    · exact touches_of_not_isTable hNew path
  constructor
  · intro hLater
    exact .inl ⟨touches_of_atPath? hLater, hLater⟩
  · rintro (⟨-, hLater⟩ | ⟨hUntouched, hEarlier⟩)
    · exact hLater
    · exact absurd (hTouches hEarlier) hUntouched

/-
  A setting after a later layer is merged is that of the later
  layer where it touches the path, and else that of before.
  By induction on the path, since two tables merge the values
  under each key.
-/
theorem atPath?_merge_iff
    {earlier later value : Value}
    (hLater : later.Distinct)
    (hPlain : ¬ value.IsTable)
    (path : List String) :
    (merge earlier later).atPath? path = some value ↔
      later.Touches path ∧ later.atPath? path = some value ∨
      ¬ later.Touches path ∧ earlier.atPath? path = some value := by
  induction path generalizing earlier later with
  | nil =>
    by_cases hTables : earlier.IsTable ∧ later.IsTable
    · obtain ⟨⟨old, rfl⟩, ⟨new, rfl⟩⟩ := hTables
      have hTable :
          ∀ entries, atPath? [] (.table entries) ≠ some value := by
        intro entries hEq
        exact hPlain ⟨entries, (Option.some.inj hEq).symm⟩
      rw [merge]
      simp [hTable]
    · rw [Classical.not_and_iff_not_or_not] at hTables
      rw [merge_of_not_isTable hTables]
      exact atPath?_iff_of_replaced hTables [] value
  | cons key rest ih =>
    by_cases hTables : earlier.IsTable ∧ later.IsTable
    · obtain ⟨⟨old, rfl⟩, ⟨new, rfl⟩⟩ := hTables
      rw [merge, touches_table_cons_iff]
      simp only [atPath?]
      rw [find?_mergeEntries hLater.keys]
      cases hNew : Entries.find? key new with
      | none => cases Entries.find? key old <;> simp
      | some found =>
        have hFound : found.Distinct :=
          hLater.values _ (Entries.mem_of_find?_eq_some hNew)
        cases Entries.find? key old with
        | none =>
          simpa using fun hValue => touches_of_atPath? hValue
        | some held => simpa using ih hFound
    · rw [Classical.not_and_iff_not_or_not] at hTables
      rw [merge_of_not_isTable hTables]
      exact atPath?_iff_of_replaced hTables (key :: rest) value

------------------------------------------------------------
-- Merging Layers
------------------------------------------------------------

theorem mergeLayers_concat
    (layers : List Value)
    (last : Value) :
    mergeLayers (layers ++ [last]) =
      merge (mergeLayers layers) last := by
  simp only [mergeLayers, List.foldl_append, List.foldl_cons,
    List.foldl_nil]

theorem Distinct.mergeLayers
    {layers : List Value}
    (hLayers : ∀ layer ∈ layers, layer.Distinct) :
    (Value.mergeLayers layers).Distinct := by
  induction layers using List.reverseRecOn with
  | nil => exact .empty
  | append_singleton before last ih =>
    rw [mergeLayers_concat]
    have hBefore : (Value.mergeLayers before).Distinct :=
      ih fun layer hLayer => hLayers layer (List.mem_append_left _ hLayer)
    exact
      hBefore.merge
        (hLayers last (List.mem_append_right _ List.mem_cons_self))

/- Whether a layer is the last of those that touch a path. -/
def IsLastTouching
    (layer : Value)
    (layers : List Value)
    (path : List String) : Prop :=
  ∃ before behind,
    layers = before ++ layer :: behind ∧
    layer.Touches path ∧
    ∀ later ∈ behind, ¬ later.Touches path

/- A layer at the end is the last, or it touches nothing. -/
theorem isLastTouching_concat_iff
    {layer last : Value}
    {layers : List Value}
    {path : List String} :
    layer.IsLastTouching (layers ++ [last]) path ↔
      last.Touches path ∧ layer = last ∨
      ¬ last.Touches path ∧ layer.IsLastTouching layers path := by
  constructor
  · rintro ⟨before, behind, hSplit, hTouches, hBehind⟩
    cases behind using List.reverseRecOn with
    | nil =>
      obtain ⟨-, hEnd⟩ := List.append_inj' hSplit rfl
      cases List.singleton_inj.mp hEnd
      exact .inl ⟨hTouches, rfl⟩
    | append_singleton others other =>
      rw [← List.cons_append, ← List.append_assoc] at hSplit
      obtain ⟨hFront, hEnd⟩ := List.append_inj' hSplit rfl
      cases List.singleton_inj.mp hEnd
      refine
        .inr ⟨hBehind last (List.mem_append_right _ List.mem_cons_self),
          before, others, hFront, hTouches, ?_⟩
      intro later hLater
      exact hBehind later (List.mem_append_left _ hLater)
  · rintro (⟨hTouches, rfl⟩ | ⟨hUntouched, before, behind, rfl, hTouches,
      hBehind⟩)
    · exact ⟨layers, [], rfl, hTouches, nofun⟩
    · refine ⟨before, behind ++ [last], by simp, hTouches, ?_⟩
      intro later hLater
      rcases List.mem_append.mp hLater with hIn | hLast
      · exact hBehind later hIn
      · rwa [List.mem_singleton.mp hLast]

/-
  A setting after all layers are merged is that of the last
  layer which touches it.  By induction from the last layer,
  which is the one that is merged onto all others.
-/
theorem atPath?_mergeLayers_iff
    {layers : List Value}
    {value : Value}
    (hLayers : ∀ layer ∈ layers, layer.Distinct)
    (hPlain : ¬ value.IsTable)
    (path : List String) :
    (mergeLayers layers).atPath? path = some value ↔
      ∃ layer : Value,
        layer.IsLastTouching layers path ∧
        layer.atPath? path = some value := by
  induction layers using List.reverseRecOn with
  | nil =>
    constructor
    · intro hValue
      cases path with
      | nil => exact absurd ⟨[], (Option.some.inj hValue).symm⟩ hPlain
      | cons key rest => cases hValue
    · rintro ⟨layer, ⟨before, behind, hSplit, -⟩, -⟩
      exact absurd hSplit.symm (List.append_ne_nil_of_right_ne_nil _
        (List.cons_ne_nil _ _))
  | append_singleton before last ih =>
    have hBefore : ∀ layer ∈ before, layer.Distinct :=
      fun layer hLayer => hLayers layer (List.mem_append_left _ hLayer)
    have hLast : last.Distinct :=
      hLayers last (List.mem_append_right _ List.mem_cons_self)
    rw [mergeLayers_concat, atPath?_merge_iff hLast hPlain, ih hBefore]
    simp only [isLastTouching_concat_iff]
    constructor
    · rintro (⟨hTouches, hValue⟩ | ⟨hUntouched, layer, hLayer, hValue⟩)
      · exact ⟨last, .inl ⟨hTouches, rfl⟩, hValue⟩
      · exact ⟨layer, .inr ⟨hUntouched, hLayer⟩, hValue⟩
    · rintro ⟨layer, ⟨hTouches, rfl⟩ | ⟨hUntouched, hLayer⟩, hValue⟩
      · exact .inl ⟨hTouches, hValue⟩
      · exact .inr ⟨hUntouched, layer, hLayer, hValue⟩

end Value

end TreeLint
