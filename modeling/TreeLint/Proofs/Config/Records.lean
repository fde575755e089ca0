import TreeLint.Config.Decode
import TreeLint.Config.Encode
import TreeLint.Proofs.Config.Merging

/-
  Tables that write the fields of a record.

  Key definitions include:
    * `WrittenField`
    * `WrittenField.Writes`
    * `WrittenField.IsTable`

  Key theorems include:
    * `WrittenField.find?_of_isTable`
    * `WrittenField.field?_of_isTable`
    * `Decode.bind_eq_ok_iff`
    * `Decode.mem_keys_of_required`

  A record may be written in many ways: its fields come in any
  order, a field that holds its default may be left out, and
  under names that are no fields anything may stand.  Looking
  a field up comes to the same in all of them.
-/

------------------------------------------------------------
-- Entries Under One Key
------------------------------------------------------------

namespace TreeLint

namespace Entries

variable {α : Type}

/- The entries under a key; only the first of them counts. -/
def under
    (key : String)
    (entries : List (String × α)) : List (String × α) :=
  entries.filter (fun entry => entry.1 == key)

theorem find?_eq_under
    (key : String)
    (entries : List (String × α)) :
    find? key entries = (under key entries).head?.map Prod.snd := by
  induction entries with
  | nil => rfl
  | cons head rest ih =>
    obtain ⟨other, value⟩ := head
    unfold under at ih ⊢
    by_cases hKey : other = key
    · simp [find?, hKey]
    · simp [find?, hKey, ih]

theorem under_eq_nil_iff
    {key : String}
    {entries : List (String × α)} :
    under key entries = [] ↔ key ∉ keys entries := by
  unfold under keys
  rw [List.filter_eq_nil_iff, List.mem_map]
  constructor
  · rintro hNone ⟨entry, hEntry, rfl⟩
    exact hNone entry hEntry (by simp)
  · intro hNone entry hEntry hKey
    exact hNone ⟨entry, hEntry, by simpa using hKey⟩

end Entries

------------------------------------------------------------
-- Written Fields
------------------------------------------------------------

/- A field of a record, and how it is written. -/
structure WrittenField where
  name : String
  /- The values that stand for what the field holds. -/
  forms : Value → Prop
  /- Whether it holds a default, so that it may be left out. -/
  optional : Prop

namespace WrittenField

/- Fields written one after another, some of them left out. -/
inductive Writes :
    List WrittenField → List (String × Value) → Prop where
  | nil :
    Writes [] []
  | kept
      {field : WrittenField}
      {fields : List WrittenField}
      {value : Value}
      {entries : List (String × Value)}
      (hForm : field.forms value)
      (hRest : Writes fields entries) :
    Writes (field :: fields) ((field.name, value) :: entries)
  | leftOut
      {field : WrittenField}
      {fields : List WrittenField}
      {entries : List (String × Value)}
      (hDefault : field.optional)
      (hRest : Writes fields entries) :
    Writes (field :: fields) entries

/-
  A table that writes fields: they are among its entries, in
  any order, and no other entry has the name of a field.
-/
def IsTable (fields : List WrittenField) (value : Value) : Prop :=
  ∃ entries written unknown,
    value = .table entries ∧
    entries.Perm (written ++ unknown) ∧
    Writes fields written ∧
    ∀ entry ∈ unknown, entry.1 ∉ fields.map name

section

variable {fields : List WrittenField} {field : WrittenField}
variable {entries : List (String × Value)}

theorem Writes.name_of_mem
    (hWrites : Writes fields entries)
    {entry : String × Value}
    (hEntry : entry ∈ entries) :
    entry.1 ∈ fields.map name := by
  induction hWrites with
  | nil => cases hEntry
  | kept hForm hRest ih =>
    rcases List.mem_cons.mp hEntry with rfl | hLater
    · exact List.mem_cons_self
    · exact List.mem_cons_of_mem _ (ih hLater)
  | leftOut hDefault hRest ih => exact List.mem_cons_of_mem _ (ih hEntry)

/- What is not the name of a field is no key. -/
theorem Writes.under_of_not_mem
    (hWrites : Writes fields entries)
    {key : String}
    (hKey : key ∉ fields.map name) :
    Entries.under key entries = [] := by
  rw [Entries.under_eq_nil_iff]
  intro hIn
  rcases List.mem_map.mp hIn with ⟨entry, hEntry, rfl⟩
  exact hKey (hWrites.name_of_mem hEntry)

/- A field is written once, or left out with its default. -/
theorem Writes.under_of_mem
    (hWrites : Writes fields entries)
    (hNames : (fields.map name).Nodup)
    (hField : field ∈ fields) :
    (∃ value,
        field.forms value ∧
        Entries.under field.name entries = [(field.name, value)]) ∨
      (field.optional ∧ Entries.under field.name entries = []) := by
  induction hWrites with
  | nil => cases hField
  | @kept first others value rest hForm hRest ih =>
    rw [List.map_cons, List.nodup_cons] at hNames
    rcases List.mem_cons.mp hField with rfl | hLater
    · have hNone := hRest.under_of_not_mem hNames.1
      refine .inl ⟨value, hForm, ?_⟩
      unfold Entries.under at hNone ⊢
      rw [List.filter_cons_of_pos (by simp), hNone]
    · have hOther : first.name ≠ field.name := by
        intro hSame
        exact hNames.1 (hSame ▸ List.mem_map.mpr ⟨field, hLater, rfl⟩)
      have hSkipped :
          Entries.under field.name ((first.name, value) :: rest) =
            Entries.under field.name rest :=
        List.filter_cons_of_neg (by simpa using hOther)
      rw [hSkipped]
      exact ih hNames.2 hLater
  | @leftOut first others rest hDefault hRest ih =>
    rw [List.map_cons, List.nodup_cons] at hNames
    rcases List.mem_cons.mp hField with rfl | hLater
    · exact .inr ⟨hDefault, hRest.under_of_not_mem hNames.1⟩
    · exact ih hNames.2 hLater

/- Looking a field up finds what is written, if it is not left out. -/
theorem find?_of_isTable
    (hTable : IsTable fields (.table entries))
    (hNames : (fields.map name).Nodup)
    (hField : field ∈ fields) :
    (∃ value,
        field.forms value ∧
        Entries.find? field.name entries = some value) ∨
      (field.optional ∧ Entries.find? field.name entries = none) := by
  rcases hTable with
    ⟨_, written, unknown, hEntries, hPerm, hWrites, hUnknown⟩
  cases hEntries
  have hNone : Entries.under field.name unknown = [] := by
    rw [Entries.under_eq_nil_iff]
    intro hIn
    rcases List.mem_map.mp hIn with ⟨entry, hEntry, hKey⟩
    exact
      hUnknown entry hEntry
        (hKey ▸ List.mem_map.mpr ⟨field, hField, rfl⟩)
  have hSame :
      (Entries.under field.name entries).Perm
        (Entries.under field.name written) := by
    have hFiltered := hPerm.filter (fun entry => entry.1 == field.name)
    rw [List.filter_append] at hFiltered
    unfold Entries.under at hNone ⊢
    rwa [hNone, List.append_nil] at hFiltered
  rw [Entries.find?_eq_under]
  rcases hWrites.under_of_mem hNames hField with
    ⟨value, hForm, hUnder⟩ | ⟨hDefault, hUnder⟩
  · rw [hUnder] at hSame
    rw [List.perm_singleton.mp hSame]
    exact .inl ⟨value, hForm, rfl⟩
  · rw [hUnder] at hSame
    rw [hSame.eq_nil]
    exact .inr ⟨hDefault, rfl⟩

end

end WrittenField

------------------------------------------------------------
-- Reading Fields
------------------------------------------------------------

namespace Decode

/- A reading in two stages succeeds if both stages do. -/
theorem bind_eq_ok_iff
    {ε α β : Type}
    {first : Except ε α}
    {next : α → Except ε β}
    {b : β} :
    (first >>= next) = .ok b ↔
      ∃ a, first = .ok a ∧ next a = .ok b := by
  cases first <;> simp [bind, Except.bind]

/- Where a field without a default is read, it is there. -/
theorem mem_keys_of_required
    {α : Type}
    {entries : List (String × Value)}
    {name : String}
    {decode : Decoder α}
    {found : Option α}
    {a : α}
    (hField : field? entries name decode = .ok found)
    (hRequired : required name found = .ok a) :
    name ∈ Entries.keys entries := by
  by_contra hMissing
  rw [field?, Entries.find?_eq_none_iff.mpr hMissing] at hField
  cases hField
  cases hRequired

end Decode

namespace WrittenField

/- A field without a default, which has one form. -/
def required (name : String) (form : Value) : WrittenField :=
  ⟨name, (· = form), False⟩

/- A field with one form that may be left out. -/
def defaulted
    (name : String)
    (form : Value)
    (isDefault : Prop) : WrittenField :=
  ⟨name, (· = form), isDefault⟩

section

variable {α : Type} {fields : List WrittenField}
variable {entries : List (String × Value)}
variable {decode : Decoder α} {a : α}

/- A field is read as what it holds, if it is not left out. -/
theorem field?_of_isTable
    {field : WrittenField}
    (hTable : IsTable fields (.table entries))
    (hNames : (fields.map name).Nodup)
    (hField : field ∈ fields)
    (hDecode : ∀ value, field.forms value → decode value = .ok a) :
    Decode.field? entries field.name decode = .ok (some a) ∨
      (field.optional ∧
        Decode.field? entries field.name decode = .ok none) := by
  unfold Decode.field?
  rcases find?_of_isTable hTable hNames hField with
    ⟨value, hForm, hFound⟩ | ⟨hDefault, hNone⟩
  · refine .inl ?_
    rw [hFound]
    simp only [hDecode value hForm]
    rfl
  · exact .inr ⟨hDefault, by rw [hNone]⟩

/- A field without a default is read. -/
theorem field?_required
    {name : String}
    {form : Value}
    (hTable : IsTable fields (.table entries))
    (hNames : (fields.map WrittenField.name).Nodup)
    (hField : required name form ∈ fields)
    (hDecode : decode form = .ok a) :
    Decode.field? entries name decode = .ok (some a) := by
  rcases field?_of_isTable hTable hNames hField
      (by rintro _ rfl; exact hDecode) with
    hRead | ⟨hDefault, _⟩
  · exact hRead
  · exact hDefault.elim

/- A field with a default is read as what it holds, or as that. -/
theorem getD_of_isTable
    (field : WrittenField)
    {default : α}
    (hTable : IsTable fields (.table entries))
    (hNames : (fields.map name).Nodup)
    (hField : field ∈ fields)
    (hDecode : ∀ value, field.forms value → decode value = .ok a)
    (hDefault : field.optional → a = default) :
    ∃ found,
      Decode.field? entries field.name decode = .ok found ∧
      found.getD default = a := by
  rcases field?_of_isTable hTable hNames hField hDecode with
    hRead | ⟨hOptional, hRead⟩
  · exact ⟨some a, hRead, rfl⟩
  · exact ⟨none, hRead, (hDefault hOptional).symm⟩

theorem getD_defaulted
    {name : String}
    {form : Value}
    {default : α}
    {isDefault : Prop}
    (hTable : IsTable fields (.table entries))
    (hNames : (fields.map WrittenField.name).Nodup)
    (hField : defaulted name form isDefault ∈ fields)
    (hDecode : decode form = .ok a)
    (hDefault : isDefault → a = default) :
    ∃ found,
      Decode.field? entries name decode = .ok found ∧
      found.getD default = a :=
  getD_of_isTable (defaulted name form isDefault) hTable hNames hField
    (by rintro _ rfl; exact hDecode) hDefault

end

end WrittenField

end TreeLint
