/-
  The changes that lead from some lines to others.

  Key definitions include:
    * `LineChanges.Hunk`
    * `LineChanges.commonTable`
    * `LineChanges.script`

  As many lines as possible are kept.  What is common at the
  start and at the end is kept in any case; between the two a
  table of the longest common parts tells which lines to drop
  and which to add.
-/

------------------------------------------------------------
-- Hunks
------------------------------------------------------------

namespace TreeLint

namespace LineChanges

/- Some old lines that are replaced by new ones. -/
structure Hunk (α : Type) where
  start : Nat
  removed : Nat
  added : List α
deriving DecidableEq, Repr

/- The lengths of the longest common parts of the ends of two lists. -/
def commonRow {α : Type} [BEq α]
    (old : Array α) (line : α) (below : Array Nat) :
    Array Nat :=
  ((List.range old.size).reverse.foldl
    (fun (row : List Nat × Nat) i =>
      let length :=
        if old[i]? == some line then (below[i + 1]?.getD 0) + 1
        else max row.2 (below[i]?.getD 0)
      (length :: row.1, length))
    ([0], 0)).1.toArray

/- For each new line on, the lengths of common ends. -/
def commonTable {α : Type} [BEq α] (old : Array α) : List α → List (Array Nat)
  | [] => [Array.replicate (old.size + 1) 0]
  | line :: rest =>
    let table := commonTable old rest
    commonRow old line (table.head?.getD #[]) :: table

/- Put a change of one line in front of others. -/
def consChange {α : Type} (start removed : Nat) (added : List α)
    (hunks : List (Hunk α)) : List (Hunk α) :=
  match hunks with
  | hunk :: rest =>
    if hunk.start == start + removed then
      ⟨start, removed + hunk.removed, added ++ hunk.added⟩ :: rest
    else
      ⟨start, removed, added⟩ :: hunks
  | [] => [⟨start, removed, added⟩]

/- The changes from old lines to new ones, by the common ends. -/
def walk {α : Type} [BEq α] : Nat → List α → List α → List (Array Nat) → List (Hunk α)
  | at', a :: old, b :: new, row :: below :: table =>
    if a == b then
      walk (at' + 1) old new (below :: table)
    else if (below[at']?.getD 0) ≤ (row[at' + 1]?.getD 0) then
      consChange at' 1 [] (walk (at' + 1) old (b :: new)
        (row :: below :: table))
    else
      consChange at' 0 [b] (walk at' (a :: old) new (below :: table))
  | at', [], new, _ => if new.isEmpty then [] else [⟨at', 0, new⟩]
  | at', old, _, _ => if old.isEmpty then [] else [⟨at', old.length, []⟩]
termination_by _ old new _ => old.length + new.length

/- How many lines two lists start with together. -/
def sharedStart {α : Type} [BEq α] : List α → List α → Nat
  | a :: old, b :: new => if a == b then sharedStart old new + 1 else 0
  | _, _ => 0

/- The changes from some lines to others. -/
def script {α : Type} [BEq α] (old new : List α) : List (Hunk α) :=
  let front := sharedStart old new
  let old := old.drop front
  let new := new.drop front
  let back := min (sharedStart old.reverse new.reverse)
    (min old.length new.length)
  let old := old.take (old.length - back)
  let new := new.take (new.length - back)
  (walk 0 old new (commonTable old.toArray new)).map fun hunk =>
    { hunk with start := hunk.start + front }

end LineChanges

end TreeLint
