/-
  Lists of entries under keys.

  Key definitions include:
    * `Entries`
    * `Entries.find?`
    * `Entries.put`
    * `Entries.ofPairs`

  Key theorems include:
    * `Entries.find?_put_self`
    * `Entries.find?_put_of_ne`

  The entries keep the order in which their keys came first.
  Only the first entry under a key counts.
-/

------------------------------------------------------------
-- Looking Up And Putting
------------------------------------------------------------

namespace TreeLint

/- Things under keys. -/
abbrev Entries (α : Type) := List (String × α)

namespace Entries

variable {α : Type}

/- What stands under a key. -/
def find? (key : String) : List (String × α) → Option α
  | [] => none
  | (other, value) :: rest =>
    if other = key then some value else find? key rest

/- Put something under a key, in place of what was there. -/
def put (key : String) (value : α) : List (String × α) → List (String × α)
  | [] => [(key, value)]
  | (other, old) :: rest =>
    if other = key then
      (key, value) :: rest
    else
      (other, old) :: put key value rest

/- Entries from pairs of which the last one wins. -/
def ofPairs (pairs : List (String × α)) : List (String × α) :=
  pairs.foldl (fun entries (key, value) => put key value entries) []

@[simp]
theorem find?_put_self
    (key : String)
    (value : α)
    (entries : List (String × α)) :
    find? key (put key value entries) = some value := by
  induction entries with
  | nil => simp [put, find?]
  | cons head rest ih =>
    obtain ⟨other, old⟩ := head
    by_cases hKey : other = key <;> simp [put, find?, hKey, ih]

@[simp]
theorem find?_put_of_ne
    {key other : String}
    (hNe : other ≠ key)
    (value : α)
    (entries : List (String × α)) :
    find? other (put key value entries) = find? other entries := by
  induction entries with
  | nil => simp [put, find?, hNe.symm]
  | cons head rest ih =>
    obtain ⟨name, old⟩ := head
    by_cases hKey : name = key
    · subst hKey
      simp [put, find?, hNe.symm]
    · by_cases hName : name = other
      · subst hName
        simp [put, find?, hKey]
      · simp [put, find?, hKey, hName, ih]

end Entries

end TreeLint
