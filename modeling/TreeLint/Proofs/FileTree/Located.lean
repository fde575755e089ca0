import TreeLint.Proofs.FileTree.Walked
import TreeLint.Proofs.Text.Utf8

/-
  Where paths lead.

  Key definitions include:
    * `Node.isLink`
    * `FileTree.IsFit`
    * `FileTree.IsPlain`

  Key theorems include:
    * `FileTree.isProper_of_advance_eq_ok`
    * `FileTree.isProper_of_locate_eq_ok`
    * `FileTree.advance_link`
    * `FileTree.locate_of_isPlain`
    * `FileTree.locateEntry_of_isPlain`
    * `FileTree.locate_of_missing`
    * `FileTree.resolved?_of_missing`
    * `FileTree.advance_name`
    * `FileTree.resolved?_of_name`

  Whatever links are followed, an absolute path leads to a
  place.  A path that meets no link leads to the place that
  it spells.
-/

------------------------------------------------------------
-- Ends Of Paths
------------------------------------------------------------

namespace TreeLint

/- Whether a node is a link. -/
def Node.isLink : Node → Bool
  | link _ => true
  | _ => false

namespace FileTree

/- By induction on the way: each step ends at a node or above. -/
theorem isProper_of_advance_eq_ok
    {t : FileTree}
    {followLast : Bool}
    {links : Nat}
    {loc dest : Location}
    {segments : List String}
    (hNames : t.WellNamed)
    (hLoc : loc.IsProper)
    (hDest : t.advance followLast links loc segments = .ok dest) :
    dest.IsProper := by
  have hBelow :
      ∀ {at' : Location} {node : Node},
        t.node? at' = some node → at'.IsProper :=
    fun hNode => isProper_of_node?_eq_some hNames hNode
  fun_induction t.advance followLast links loc segments with
  | case1 links loc => exact Except.ok.inj hDest ▸ hLoc
  | case2 => cases hDest
  | case3 links loc segment rest hDir hIdle ih => exact ih hLoc hDest
  | case4 links loc segment rest hDir hIdle hParent ih =>
    have hAbove : Location.IsProper loc.dropLast :=
      fun name hName => hLoc name (List.dropLast_subset loc hName)
    exact ih hAbove hDest
  | case5 => cases hDest
  | case6 => cases hDest
  | case7 links loc segment rest hDir hIdle hParent target hLink =>
    exact Except.ok.inj hDest ▸ hBelow hLink
  | case8 => cases hDest
  | case9 => cases hDest
  | case10 loc segment rest hDir hIdle hParent target hLink hOn hSome
      links ih =>
    refine ih ?_ hDest
    split
    · simp [Location.IsProper]
    · exact hLoc
  | case11 links loc segment rest hDir hIdle hParent node hOther hNode
      ih =>
    exact ih (hBelow hNode) hDest
  | case12 => cases hDest

/- An absolute path leads to a place. -/
theorem isProper_of_locate_eq_ok
    {t : FileTree}
    {cwd loc : Location}
    {p : Path}
    (hNames : t.WellNamed)
    (hAbsolute : p.isAbsolute = true)
    (hLoc : t.locate cwd p = .ok loc) :
    loc.IsProper := by
  unfold locate at hLoc
  split at hLoc
  · cases hLoc
  · unfold origin at hLoc
    rw [if_pos hAbsolute] at hLoc
    exact
      isProper_of_advance_eq_ok hNames (by simp [Location.IsProper]) hLoc

------------------------------------------------------------
-- Fit Paths
------------------------------------------------------------

/- No character has more than four bytes. -/
theorem byteCount_le
    (text : String) :
    byteCount text ≤ 4 * text.toList.length := by
  unfold byteCount RawByte.encode
  induction text.toList with
  | nil => exact Nat.le_refl _
  | cons c rest ih =>
    rw [List.flatMap_cons, List.length_append, List.length_cons,
      Nat.mul_succ, Nat.add_comm]
    refine Nat.add_le_add ih ?_
    split
    · exact Nat.le_of_ble_eq_true rfl
    · simpa [Utf8.encode_eq] using c.utf8Size_le_four

/- What it takes for a path to be followed at all. -/
theorem pathFault?_eq_none_iff
    {p : Path} :
    pathFault? p = none ↔
      p ≠ "" ∧ '\x00' ∉ p.toList := by
  unfold pathFault?
  rw [String.contains_char_eq]
  by_cases hSome : p = ""
  · simp [hSome]
  · by_cases hNull : '\x00' ∈ p.toList <;>
      simp [hSome, hNull, Path.isEmpty_eq_false hSome]

------------------------------------------------------------
-- Paths Without Links
------------------------------------------------------------

/- A location whose path is one that can be followed. -/
structure IsFit (loc : Location) : Prop where
  proper : loc.IsProper
  free : '\x00' ∉ loc.toPath.toList

instance : DecidablePred IsFit :=
  fun loc =>
    decidable_of_iff
      (loc.IsProper ∧ '\x00' ∉ loc.toPath.toList)
      ⟨fun ⟨hProper, hFree⟩ => ⟨hProper, hFree⟩,
        fun hFit => ⟨hFit.proper, hFit.free⟩⟩

theorem IsFit.pathFault?_eq_none
    {loc : Location}
    (hFit : IsFit loc) :
    pathFault? loc.toPath = none :=
  pathFault?_eq_none_iff.mpr
    ⟨Location.toPath_ne_empty loc, hFit.free⟩

/- A fit location that is reached through directories alone. -/
structure IsPlain (t : FileTree) (loc : Location) : Prop where
  fit : IsFit loc
  through : ∀ n < loc.length, t.node? (loc.take n) = some .directory

instance (t : FileTree) : DecidablePred t.IsPlain :=
  fun loc =>
    decidable_of_iff
      (IsFit loc ∧
        ∀ n < loc.length, t.node? (loc.take n) = some .directory)
      ⟨fun ⟨hFit, hThrough⟩ => ⟨hFit, hThrough⟩,
        fun hPlain => ⟨hPlain.fit, hPlain.through⟩⟩

/- What a plain location lies in directly is a directory. -/
theorem IsPlain.node?_above
    {t : FileTree}
    {front : Location}
    {name : String}
    (hPlain : t.IsPlain (front ++ [name])) :
    t.node? front = some .directory := by
  have hTaken := hPlain.through front.length (by simp)
  rwa [List.take_left] at hTaken

/-
  Proper names are passed one by one, as long as they lead
  through directories.  By induction on these names.
-/
theorem advance_through
    {t : FileTree}
    {followLast : Bool}
    {links : Nat}
    {loc names : Location}
    (rest : List String)
    (hNames : names.IsProper)
    (hDirs :
      ∀ n ≤ names.length,
        t.node? (loc ++ names.take n) = some .directory) :
    t.advance followLast links loc (names ++ rest) =
      t.advance followLast links (loc ++ names) rest := by
  induction names generalizing loc with
  | nil => rw [List.nil_append, List.append_nil]
  | cons name others ih =>
    have hName := hNames name List.mem_cons_self
    have hHere : t.node? loc = some .directory := by
      simpa using hDirs 0 (Nat.zero_le _)
    have hNext : t.node? (loc ++ [name]) = some .directory := by
      simpa using hDirs 1 (by simp)
    have hOthers :=
      @ih (loc ++ [name])
        (fun other hOther => hNames other (List.mem_cons_of_mem _ hOther))
        (fun n hLe => by
          have hDir := hDirs (n + 1) (Nat.succ_le_succ hLe)
          simpa using hDir)
    rw [List.cons_append, advance, hHere]
    simp only [hName.1, hName.beq_parent, hNext, Bool.false_eq_true, if_false]
    rw [hOthers, List.append_assoc, List.singleton_append]

/- The last step to a plain location is taken where it lies. -/
theorem advance_of_isPlain
    {t : FileTree}
    {followLast : Bool}
    {links : Nat}
    {front : Location}
    {name : String}
    (rest : List String)
    (hPlain : t.IsPlain (front ++ [name])) :
    t.advance followLast links [] (front ++ name :: rest) =
      t.advance followLast links front (name :: rest) := by
  apply advance_through (name :: rest)
  · exact (Location.isProper_append.mp hPlain.fit.proper).1
  · intro n hLe
    have hDir :=
      hPlain.through n (by simpa using Nat.lt_succ_of_le hLe)
    rwa [List.take_append_of_le_length hLe] at hDir

/- A link on the way is replaced by what leads to its target. -/
theorem advance_link
    {t : FileTree}
    {followLast : Bool}
    {front : Location}
    {name : String}
    {target : Path}
    {rest : List String}
    (links : Nat)
    (hPlain : t.IsPlain (front ++ [name]))
    (hNode : t.node? (front ++ [name]) = some (.link target))
    (hSome : target.isEmpty = false)
    (hOn : (rest.isEmpty && !followLast) = false) :
    t.advance followLast (links + 1) [] (front ++ name :: rest) =
      t.advance followLast links (origin front target)
        (target.segments ++ rest) := by
  have hName : Path.IsName name := hPlain.fit.proper name (by simp)
  rw [advance_of_isPlain rest hPlain, advance, hPlain.node?_above]
  simp only [hName.1, hName.beq_parent, Bool.false_eq_true, if_false, hNode,
    hOn, hSome]
  rfl

/- Going along the path of a location is going along its names. -/
theorem advance_segments_toPath
    {t : FileTree}
    {followLast : Bool}
    {links : Nat}
    {loc : Location}
    (hProper : loc.IsProper) :
    t.advance followLast links [] loc.toPath.segments =
      t.advance followLast links [] loc := by
  have hIdle :
      ∀ rest,
        t.advance followLast links [] ("" :: rest) =
          t.advance followLast links [] rest := by
    intro rest
    rw [advance]
    rfl
  cases loc with
  | nil =>
    rw [Location.segments_toPath, hIdle]
    exact hIdle []
  | cons name rest =>
    rw [Location.segments_toPath_of_ne_nil hProper
      (List.cons_ne_nil _ _)]
    exact hIdle _

section

variable {t : FileTree} {cwd : Location}

theorem locate_toPath
    {loc : Location}
    (hFit : IsFit loc) :
    t.locate cwd loc.toPath = t.advance true linkLimit [] loc := by
  unfold locate origin
  rw [hFit.pathFault?_eq_none, if_pos (Location.isAbsolute_toPath loc)]
  simp only
  rw [advance_segments_toPath hFit.proper]

theorem locateEntry_toPath
    {loc : Location}
    (hFit : IsFit loc) :
    t.locateEntry cwd loc.toPath =
      t.advance false linkLimit [] loc := by
  unfold locateEntry origin
  rw [hFit.pathFault?_eq_none, if_pos (Location.isAbsolute_toPath loc)]
  simp only
  rw [advance_segments_toPath hFit.proper]

/- A way without links ends where it goes, whatever lies there. -/
theorem advance_plain
    {loc : Location}
    {node : Node}
    (followLast : Bool)
    (links : Nat)
    (hPlain : t.IsPlain loc)
    (hNode : t.node? loc = some node)
    (hStays : node.isLink = false ∨ followLast = false) :
    t.advance followLast links [] loc = .ok loc := by
  rcases List.eq_nil_or_concat loc with rfl | ⟨front, name, hConcat⟩
  · rw [advance]
  · rw [List.concat_eq_append] at hConcat
    subst hConcat
    have hName : Path.IsName name := hPlain.fit.proper name (by simp)
    rw [advance_of_isPlain [] hPlain, advance, hPlain.node?_above]
    simp only [hName.1, hName.beq_parent, Bool.false_eq_true, if_false, hNode]
    cases node with
    | link target =>
      rcases hStays with hOther | rfl
      · cases hOther
      · rfl
    | directory => rw [advance]
    | file content executable => rw [advance]
    | pipe => rw [advance]

/- A path without links leads to what it spells. -/
theorem locate_of_isPlain
    {loc : Location}
    {node : Node}
    (hPlain : t.IsPlain loc)
    (hNode : t.node? loc = some node)
    (hLink : node.isLink = false) :
    t.locate cwd loc.toPath = .ok loc := by
  rw [locate_toPath hPlain.fit]
  exact advance_plain true linkLimit hPlain hNode (Or.inl hLink)

theorem locateEntry_of_isPlain
    {loc : Location}
    {node : Node}
    (hPlain : t.IsPlain loc)
    (hNode : t.node? loc = some node) :
    t.locateEntry cwd loc.toPath = .ok loc := by
  rw [locateEntry_toPath hPlain.fit]
  exact advance_plain false linkLimit hPlain hNode (Or.inr rfl)

/- A short name that a directory does not hold is not found. -/
theorem advance_short_missing
    {followLast : Bool}
    {links : Nat}
    {loc : Location}
    {name : String}
    (rest : List String)
    (hName : Path.IsName name)
    (hDirectory : t.node? loc = some .directory)
    (hMissing : t.node? (loc ++ [name]) = none)
    (hShort : 4 * name.toList.length ≤ nameLimit) :
    t.advance followLast links loc (name :: rest) =
      .error .notFound := by
  have hCount : ¬ nameLimit < byteCount name :=
    Nat.not_lt.mpr (Nat.le_trans (byteCount_le name) hShort)
  rw [advance, hDirectory]
  simp only [hName.1, hName.beq_parent, Bool.false_eq_true, if_false, hMissing]
  rw [if_neg hCount]

theorem locate_of_missing
    {front : Location}
    {name : String}
    (hPlain : t.IsPlain (front ++ [name]))
    (hMissing : t.node? (front ++ [name]) = none)
    (hShort : 4 * name.toList.length ≤ nameLimit) :
    t.locate cwd (Location.toPath (front ++ [name])) =
      .error .notFound := by
  have hName : Path.IsName name := hPlain.fit.proper name (by simp)
  rw [locate_toPath hPlain.fit, advance_of_isPlain [] hPlain]
  exact advance_short_missing [] hName hPlain.node?_above hMissing hShort

theorem resolved?_of_isPlain
    {loc : Location}
    {node : Node}
    (hPlain : t.IsPlain loc)
    (hNode : t.node? loc = some node)
    (hLink : node.isLink = false) :
    t.resolved? cwd loc.toPath = some (loc, node) := by
  unfold resolved?
  rw [locate_of_isPlain hPlain hNode hLink]
  simp [hNode]

/- A way past a name that is not there leads nowhere. -/
theorem advance_missing
    {followLast : Bool}
    {links : Nat}
    {loc : Location}
    {name : String}
    (rest : List String)
    (hName : Path.IsName name)
    (hDirectory : t.node? loc = some .directory)
    (hMissing : t.node? (loc ++ [name]) = none) :
    ∃ error,
      t.advance followLast links loc (name :: rest) = .error error := by
  rw [advance, hDirectory]
  simp only [hName.1, hName.beq_parent, Bool.false_eq_true, if_false, hMissing]
  split
  · exact ⟨_, rfl⟩
  · exact ⟨_, rfl⟩

/- A relative path whose first name is missing leads nowhere. -/
theorem resolved?_of_missing
    {p : Path}
    {name : String}
    {rest : List String}
    (hSegments : p.segments = name :: rest)
    (hName : Path.IsName name)
    (hRelative : p.isAbsolute = false)
    (hDirectory : t.node? cwd = some .directory)
    (hMissing : t.node? (cwd ++ [name]) = none) :
    t.resolved? cwd p = none := by
  have hError : ∃ error, t.locate cwd p = .error error := by
    unfold locate
    split
    · exact ⟨_, rfl⟩
    · rw [hSegments, origin, hRelative]
      exact advance_missing rest hName hDirectory hMissing
  rcases hError with ⟨error, hError⟩
  rw [resolved?, hError]

/- One name on from a directory, where no link is met. -/
theorem advance_name
    {loc : Location}
    {links : Nat}
    {name : String}
    {node : Node}
    (hName : Path.IsName name)
    (hDir : t.node? loc = some .directory)
    (hNode : t.node? (loc ++ [name]) = some node)
    (hLink : node.isLink = false) :
    t.advance true links loc [name] = .ok (loc ++ [name]) := by
  rw [advance, hDir]
  simp only [hName.1, hName.beq_parent, Bool.false_eq_true, if_false, hNode]
  cases node with
  | link target => cases hLink
  | directory => rw [advance]
  | file content executable => rw [advance]
  | pipe => rw [advance]

/- A name is looked for in the working directory. -/
theorem resolved?_of_name
    {name : String}
    {node : Node}
    (hName : Path.IsName name)
    (hFree : '\x00' ∉ name.toList)
    (hDirectory : t.node? cwd = some .directory)
    (hNode : t.node? (cwd ++ [name]) = some node)
    (hLink : node.isLink = false) :
    t.resolved? cwd name = some (cwd ++ [name], node) := by
  have hLocated : t.locate cwd name = .ok (cwd ++ [name]) := by
    unfold locate
    rw [pathFault?_eq_none_iff.mpr ⟨hName.ne_empty, hFree⟩,
      hName.segments_eq, origin, hName.isAbsolute_eq_false]
    exact advance_name hName hDirectory hNode hLink
  rw [resolved?, hLocated]
  simp [hNode]

/- A plain location with an executable file holds a program. -/
theorem isProgram_of_isPlain
    {loc : Location}
    {content : List UInt8}
    (hPlain : t.IsPlain loc)
    (hNode : t.node? loc = some (.file content true)) :
    t.isProgram cwd loc.toPath = true := by
  unfold isProgram
  rw [resolved?_of_isPlain hPlain hNode rfl]

end

end FileTree

end TreeLint
