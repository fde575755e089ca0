import TreeLint.Path.Basic

/-
  Finite sets of paths.

  Key definitions include:
    * `PathSet`
    * `PathSet.resolved`
    * `PathSet.sorted`

  A set is held as a list; the order and the repetitions in
  the list carry no meaning, and only membership is asked.
-/

------------------------------------------------------------
-- Sets Of Paths
------------------------------------------------------------

namespace TreeLint

/- A finite set of paths. -/
abbrev PathSet := List Path

namespace PathSet

/- The set of the paths given, each resolved from a base. -/
def resolved (base : Path) (paths : List Path) : PathSet :=
  paths.map (Path.resolve base)

/- Whether a path names the same parts as a member of a set. -/
def holds (set : PathSet) (p : Path) : Bool :=
  set.any (fun member => member.parts == p.parts)

/- The members in the order of their text, each of them once. -/
def sorted (set : PathSet) : List Path :=
  (set.mergeSort (fun p q => decide (p ≤ q))).eraseDups

end PathSet

end TreeLint
