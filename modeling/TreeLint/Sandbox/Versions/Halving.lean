import TreeLint.Sandbox.Versions.Nested

/-
  The commit that splits a part of the history in two.

  Key definitions include:
    * `Halving.Candidate`
    * `Halving.weight`
    * `Halving.middle?`
    * `Halving.withoutSkipped`

  A change that spoiled something lies behind one of some
  commits.  The best one to look at next is the one that has
  about half of the others before it, so that either answer
  leaves half of them.
-/

------------------------------------------------------------
-- Candidates
------------------------------------------------------------

namespace TreeLint

namespace Sandbox

namespace Versions

namespace Halving

/- A commit behind which the change may lie. -/
structure Candidate where
  id : String
  /- The parents that are candidates themselves. -/
  parents : List String
  /- The commit changes something that is asked about. -/
  isCounted : Bool
deriving Repr

/- A candidate with all candidates before it. -/
def before (all : List Candidate) : Nat → List String → List String →
    List String
  | 0, seen, _ => seen
  | _ + 1, seen, [] => seen
  | fuel + 1, seen, id :: rest =>
    if seen.contains id then before all fuel seen rest
    else
      let parents := match all.find? (fun c => c.id == id) with
        | some c => c.parents
        | none => []
      before all fuel (id :: seen) (parents ++ rest)

/- How many counted candidates a candidate leads to, with itself. -/
def weight (all : List Candidate) (c : Candidate) : Nat :=
  let edges :=
    all.foldl (fun count c => count + c.parents.length + 1) 0
  let reached := before all (edges + 1) [] [c.id]
  (all.filter fun other =>
    other.isCounted && reached.contains other.id).length

/- How far a weight is from both ends. -/
def balance (count weight : Nat) : Nat :=
  min weight (count - weight)

/- Whether a weight is as good as half of a count. -/
def isHalf (count weight : Nat) : Bool :=
  let off := if count ≤ 2 * weight then 2 * weight - count
    else count - 2 * weight
  off ≤ 1 || off < count / 1024

/- The order in which candidates are weighed: merges come first. -/
def weighed (all : List Candidate) : List Candidate :=
  all.filter (fun c => 1 < c.parents.length)
    ++ all.filter (fun c => c.parents.length == 1)

/- The best candidate: the first one of those that are most balanced. -/
def best? (count : Nat) (weights : List (Candidate × Nat)) :
    Option Candidate :=
  (weights.foldl
    (fun (best? : Option (Candidate × Nat)) (c, weight) =>
      let found := balance count weight
      match best? with
      | some (_, known) => if known < found then some (c, found) else best?
      | none => some (c, found))
    none).map Prod.fst

/-
  The candidate in the middle; the candidates are in order, the
  oldest first.
-/
def middle? (all : List Candidate) : Option Candidate :=
  let count := (all.filter Candidate.isCounted).length
  match (weighed all).find? fun c =>
      c.isCounted && isHalf count (weight all c) with
  | some c => some c
  | none =>
    best? count ((all.filter Candidate.isCounted).map fun c =>
      (c, weight all c))

------------------------------------------------------------
-- Commits That Cannot Be Tested
------------------------------------------------------------

/- The candidates from the most balanced one on. -/
def ranked (all : List Candidate) : List String :=
  let counted := all.filter Candidate.isCounted
  let weights := counted.map fun c =>
    (c.id, balance counted.length (weight all c))
  (weights.mergeSort fun (a, known) (b, found) =>
    found < known || (known == found && RawByte.precedes a b)).map Prod.fst

/- The greatest number whose square is not above another one. -/
def root (n : Nat) : Nat :=
  ((List.range n).takeWhile fun k => (k + 1) * (k + 1) ≤ n).length

/- The range of the numbers that look random. -/
def randomRange : Nat := 32768

/- A number that looks random, but always is the same for a count. -/
def random (count : Nat) : Nat :=
  ((count * 1103515245 + 12345) % 4294967296 / 65536) % randomRange

/-
  Of some candidates, the best one first, take one that is not
  too near to the first, because what could not be tested
  before may lie close to it.
-/
def awayFrom? (bad : String) (ids : List String) : Option String :=
  let count := ids.length
  let place := count * random count / randomRange * root count
    / root randomRange
  match ids[place]? with
  | none => ids.head?
  | some id =>
    if id != bad then some id
    else if place == 0 then ids.head?
    else ids[place - 1]?

/- What is left of ranked candidates, and those that were skipped. -/
def withoutSkipped (skipped : List String) (ids : List String) :
    List String × List String :=
  match ids with
  | [] => ([], [])
  | first :: _ =>
    if skipped.contains first then
      (ids.filter (fun id => !skipped.contains id),
        ids.filter skipped.contains)
    else (ids, [])

/- About how many answers are needed for a number of candidates. -/
def steps (count : Nat) : Nat :=
  if count < 3 then 0
  else
    let n := Nat.log2 count
    let power := Nat.pow 2 n
    if power < 3 * (count - power) then n else n - 1

end Halving

end Versions

end Sandbox

end TreeLint
