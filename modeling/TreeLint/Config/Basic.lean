import TreeLint.Linter.Language
import TreeLint.Linter.Policy

/-
  The configuration of a run.

  Key definitions include:
    * `Dictionary`
    * `Dictionary.insert`
    * `Dictionary.ofList`
    * `LinterConfig`
    * `Config`

  A configuration says where the sources live, which files
  are never linted, and which linters run in which order.
-/

------------------------------------------------------------
-- Dictionaries
------------------------------------------------------------

namespace TreeLint

/-
  Texts under names.  The names ascend, so two dictionaries
  with the same members are equal.
-/
structure Dictionary where
  entries : List (String × String)
  ascending : entries.Pairwise (fun a b => a.1 < b.1)
deriving DecidableEq

namespace Dictionary

/- The dictionary without members. -/
def empty : Dictionary :=
  ⟨[], List.Pairwise.nil⟩

instance : Inhabited Dictionary :=
  ⟨empty⟩

/- Put a text under a name in an ascending list. -/
def insertEntry
    (name value : String) :
    List (String × String) → List (String × String)
  | [] => [(name, value)]
  | (other, old) :: rest =>
    if name < other then
      (name, value) :: (other, old) :: rest
    else if name = other then
      (name, value) :: rest
    else
      (other, old) :: insertEntry name value rest

/- The names of the result are the old ones and the new one. -/
theorem name_of_mem_insertEntry
    {name value : String}
    {entries : List (String × String)}
    {entry : String × String}
    (hMem : entry ∈ insertEntry name value entries) :
    entry.1 = name ∨ ∃ old ∈ entries, old.1 = entry.1 := by
  induction entries with
  | nil =>
    simp only [insertEntry, List.mem_singleton] at hMem
    exact Or.inl (hMem ▸ rfl)
  | cons head rest ih =>
    obtain ⟨other, old⟩ := head
    simp only [insertEntry] at hMem
    split at hMem
    · rcases List.mem_cons.mp hMem with rfl | hIn
      · exact Or.inl rfl
      · exact Or.inr ⟨entry, hIn, rfl⟩
    · split at hMem
      · rcases List.mem_cons.mp hMem with rfl | hIn
        · exact Or.inl rfl
        · exact Or.inr ⟨entry, List.mem_cons_of_mem _ hIn, rfl⟩
      · rcases List.mem_cons.mp hMem with rfl | hIn
        · exact Or.inr ⟨_, List.mem_cons_self, rfl⟩
        · rcases ih hIn with hName | ⟨e, hE, hEq⟩
          · exact Or.inl hName
          · exact Or.inr ⟨e, List.mem_cons_of_mem _ hE, hEq⟩

theorem ascending_insertEntry
    {name value : String}
    {entries : List (String × String)}
    (hAsc : entries.Pairwise (fun a b => a.1 < b.1)) :
    (insertEntry name value entries).Pairwise
      (fun a b => a.1 < b.1) := by
  induction entries with
  | nil => simp [insertEntry]
  | cons head rest ih =>
    obtain ⟨other, old⟩ := head
    obtain ⟨hHead, hRest⟩ := List.pairwise_cons.mp hAsc
    simp only [insertEntry]
    split
    · next hLt =>
      refine List.pairwise_cons.mpr ⟨?_, hAsc⟩
      intro entry hEntry
      rcases List.mem_cons.mp hEntry with rfl | hIn
      · exact hLt
      · exact String.lt_trans hLt (hHead entry hIn)
    · split
      · next hEq =>
        subst hEq
        exact List.pairwise_cons.mpr ⟨hHead, hRest⟩
      · next hNotLt hNe =>
        refine List.pairwise_cons.mpr ⟨?_, ih hRest⟩
        intro entry hEntry
        rcases name_of_mem_insertEntry hEntry with hName | ⟨e, hE, hEq⟩
        · show other < entry.1
          rw [hName]
          by_cases hLt : other < name
          · exact hLt
          · exact absurd
              (String.le_antisymm
                (String.not_lt.mp hLt) (String.not_lt.mp hNotLt))
              hNe
        · have hLt := hHead e hE
          simpa [hEq] using hLt

/- Put a text under a name; it replaces what stood there. -/
def insert (d : Dictionary) (name value : String) : Dictionary :=
  ⟨insertEntry name value d.entries, ascending_insertEntry d.ascending⟩

/- The dictionary with the entries given, the last one winning. -/
def ofList (entries : List (String × String)) : Dictionary :=
  entries.foldl (fun d (name, value) => d.insert name value) empty

/- Change every text and no name. -/
def mapValues (f : String → String) (d : Dictionary) : Dictionary :=
  ⟨d.entries.map (fun (name, value) => (name, f value)), by
    rw [List.pairwise_map]
    exact d.ascending⟩

end Dictionary

------------------------------------------------------------
-- Configurations
------------------------------------------------------------

/- One linter as a configuration describes it. -/
structure LinterConfig where
  key : Language
  /- Directories to search, seen from the source root. -/
  roots : List String
  /- Accepted file extensions, without the dot. -/
  extensions : List String
  /- The name of the program, or a path to it. -/
  command : String
  /- Arguments in front of the files. -/
  args : List String
  /- Variables for the environment of the linter. -/
  env : Dictionary
  /- The directory in which the linter is started. -/
  cwd : Option String
  policy : Policy
deriving DecidableEq

/- What a run is told. -/
structure Config where
  /- The source root; a blank text asks to discover it. -/
  sourceRoot : String
  /- Paths that no linter is given. -/
  blacklist : List String
  /- The linters in the order in which they run. -/
  linters : List LinterConfig
deriving DecidableEq

namespace Config

/- The configuration that says nothing. -/
def empty : Config :=
  ⟨"", [], []⟩

end Config

end TreeLint
