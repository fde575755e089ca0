import TreeLint.Path.Basic
import TreeLint.Text.RawByte

/-
  File trees with links.

  Key definitions include:
    * `Location`
    * `Node`
    * `Stamp`
    * `FileTree`
    * `FileTree.node?`
    * `FileTree.stamp`
    * `FileTree.names`
    * `FileTree.locate`
    * `FileTree.locateEntry`

  Key theorems include:
    * `FileTree.length_le_height`

  A file tree gives a node to finitely many locations.  A
  location is the list of names that leads to it from the
  root, so every directory has one location and no other,
  whatever links lead to it.  A location below something that
  is no directory is never reached.  There is a limit to the
  length of a name, none to that of a path.
-/

------------------------------------------------------------
-- Trees
------------------------------------------------------------

namespace TreeLint

/- The names that lead from the root to a node. -/
abbrev Location := List String

/- What a file tree holds at a location. -/
inductive Node where
  | directory
  | file (content : List UInt8) (executable : Bool)
  | link (target : Path)
  /- A node that can be opened but is no regular file. -/
  | pipe
deriving DecidableEq, Repr

/- When a node was changed. -/
structure Stamp where
  /- The second in which its content was written, which can be set. -/
  second : Int
  /- Which of the changes in that second it was. -/
  part : Nat
  /- The second of the last change of any kind. -/
  changed : Int
deriving DecidableEq, Repr

/- Whether a content was written later than another one. -/
def Stamp.isLater (a b : Stamp) : Bool :=
  b.second < a.second || (a.second == b.second && b.part < a.part)

/-
  Finitely many nodes below the root.  A clock tells the
  second and counts the changes, and there are stamps for the
  nodes that were changed.
-/
structure FileTree where
  nodes : List (Location × Node)
  stamps : List (Location × Stamp) := []
  second : Int := 0
  part : Nat := 0
deriving DecidableEq, Repr

namespace FileTree

/- The node at a location; the root is a directory. -/
def node? (t : FileTree) (loc : Location) : Option Node :=
  if loc.isEmpty then some .directory else t.nodes.lookup loc

/- The stamp of a change that is made now. -/
def now (t : FileTree) : Stamp :=
  ⟨t.second, t.part + 1, t.second⟩

/- When the node at a location was changed, if it ever was. -/
def stamp (t : FileTree) (loc : Location) : Stamp :=
  (t.stamps.lookup loc).getD ⟨0, 0, 0⟩

/- Whether there is a directory at a location. -/
def isDirectoryAt (t : FileTree) (loc : Location) : Bool :=
  t.node? loc == some .directory

/- The name of a location that lies directly below another. -/
def childName? : Location → Location → Option String
  | [], [name] => some name
  | a :: above, b :: below =>
    if a = b then childName? above below else none
  | _, _ => none

/- The names directly below a location, their bytes ascending. -/
def names (t : FileTree) (loc : Location) : List String :=
  ((t.nodes.filterMap (fun (at', _) => childName? loc at')).mergeSort
    RawByte.precedes).eraseDups

/- The directories of a tree. -/
def directories (t : FileTree) : List Location :=
  [] :: (t.nodes.map Prod.fst).filter t.isDirectoryAt

/- The length of the longest location. -/
def height (t : FileTree) : Nat :=
  (t.nodes.map (fun (loc, _) => loc.length)).foldr max 0

theorem length_le_foldr_max
    {lengths : List Nat}
    {n : Nat}
    (hMem : n ∈ lengths) :
    n ≤ lengths.foldr max 0 := by
  induction lengths with
  | nil => cases hMem
  | cons m rest ih =>
    simp only [List.foldr_cons]
    rcases List.mem_cons.mp hMem with rfl | hIn
    · exact Nat.le_max_left ..
    · exact Nat.le_trans (ih hIn) (Nat.le_max_right ..)

theorem mem_of_lookup_eq_some
    {nodes : List (Location × Node)}
    {loc : Location}
    {node : Node}
    (hFound : nodes.lookup loc = some node) :
    (loc, node) ∈ nodes := by
  induction nodes with
  | nil => cases hFound
  | cons head rest ih =>
    obtain ⟨other, held⟩ := head
    simp only [List.lookup_cons] at hFound
    split at hFound
    · next hEq =>
      cases hFound
      have hLoc : loc = other := by simpa using hEq
      exact hLoc ▸ List.mem_cons_self
    · exact List.mem_cons_of_mem _ (ih hFound)

/- No node lies deeper than the height of the tree. -/
theorem length_le_height
    {t : FileTree}
    {loc : Location}
    {node : Node}
    (hNode : t.node? loc = some node) :
    loc.length ≤ t.height := by
  simp only [node?] at hNode
  split at hNode
  · next hEmpty =>
    cases loc with
    | nil => exact Nat.zero_le _
    | cons _ _ => cases hEmpty
  · exact length_le_foldr_max
      (List.mem_map.mpr ⟨_, mem_of_lookup_eq_some hNode, rfl⟩)

/- A location with a directory is one of the directories. -/
theorem mem_directories
    {t : FileTree}
    {loc : Location}
    (hNode : t.node? loc = some .directory) :
    loc ∈ t.directories := by
  cases loc with
  | nil => exact List.mem_cons_self
  | cons name rest =>
    refine List.mem_cons_of_mem _ (List.mem_filter.mpr ⟨?_, ?_⟩)
    · have hLookup : t.nodes.lookup (name :: rest) = some .directory := by
        simpa [node?] using hNode
      exact List.mem_map.mpr
        ⟨_, mem_of_lookup_eq_some hLookup, rfl⟩
    · simp [isDirectoryAt, hNode]

------------------------------------------------------------
-- Following Paths
------------------------------------------------------------

/- Why a path leads nowhere. -/
inductive PathError where
  | notFound
  | notDirectory
  | tooManyLinks
  | tooLong
  /- The path holds a character that no path may hold. -/
  | notPath
deriving DecidableEq, Repr

/- How many links are followed on the way to one node. -/
def linkLimit : Nat := 40

/- The most bytes that a name may have. -/
def nameLimit : Nat := 255

/- How many bytes a text has; a plain one tells it at once. -/
def byteCount (text : String) : Nat :=
  (RawByte.encode text).length

/- What is wrong with a path, wherever it may lead. -/
def pathFault? (p : Path) : Option PathError :=
  if p.isEmpty then some .notFound
  else if p.contains '\x00' then some .notPath
  else none

/-
  Go along segments from a location.  A link is replaced by
  the segments of its target; `followLast` says whether that
  is also done for a link at the very end.
-/
def advance
    (t : FileTree)
    (followLast : Bool)
    (links : Nat)
    (loc : Location) :
    List String → Except PathError Location
  | [] => .ok loc
  | segment :: rest =>
    match t.node? loc with
    | none => .error .notFound
    | some .directory =>
      if Path.isIdle segment then
        t.advance followLast links loc rest
      else if segment == Path.parent then
        t.advance followLast links loc.dropLast rest
      else
        match t.node? (loc ++ [segment]) with
        | none =>
          if nameLimit < byteCount segment then .error .tooLong
          else .error .notFound
        | some (.link target) =>
          if rest.isEmpty && !followLast then
            .ok (loc ++ [segment])
          else if target.isEmpty then
            .error .notFound
          else
            match links with
            | 0 => .error .tooManyLinks
            | links + 1 =>
              t.advance followLast links
                (if target.isAbsolute then [] else loc)
                (target.segments ++ rest)
        | some _ => t.advance followLast links (loc ++ [segment]) rest
    | some _ => .error .notDirectory
termination_by segments => (links, segments.length)

/- Where a path starts, seen from a working directory. -/
def origin (cwd : Location) (p : Path) : Location :=
  if p.isAbsolute then [] else cwd

/- The node that a path leads to, all links followed. -/
def locate
    (t : FileTree)
    (cwd : Location)
    (p : Path) : Except PathError Location :=
  match pathFault? p with
  | some error => .error error
  | none => t.advance true linkLimit (origin cwd p) p.segments

/- The node that a path names, which may be a link. -/
def locateEntry
    (t : FileTree)
    (cwd : Location)
    (p : Path) : Except PathError Location :=
  match pathFault? p with
  | some error => .error error
  | none => t.advance false linkLimit (origin cwd p) p.segments

------------------------------------------------------------
-- Asking About Paths
------------------------------------------------------------

/- The node at the end of a path, all links followed. -/
def resolved?
    (t : FileTree)
    (cwd : Location)
    (p : Path) : Option (Location × Node) :=
  match t.locate cwd p with
  | .error _ => none
  | .ok loc => (t.node? loc).map (fun node => (loc, node))

/- Whether a path leads to anything. -/
def pathExists (t : FileTree) (cwd : Location) (p : Path) : Bool :=
  (t.resolved? cwd p).isSome

/- The content of the regular file that a path leads to. -/
def read?
    (t : FileTree)
    (cwd : Location)
    (p : Path) : Option (List UInt8) :=
  match t.resolved? cwd p with
  | some (_, .file content _) => some content
  | _ => none

/- Whether a path leads to a regular file. -/
def isFile (t : FileTree) (cwd : Location) (p : Path) : Bool :=
  (t.read? cwd p).isSome

/- Whether a path leads to a regular file that can be started. -/
def isProgram (t : FileTree) (cwd : Location) (p : Path) : Bool :=
  match t.resolved? cwd p with
  | some (_, .file _ executable) => executable
  | _ => false

/- The directory that a path leads to. -/
def directory?
    (t : FileTree)
    (cwd : Location)
    (p : Path) : Option Location :=
  match t.resolved? cwd p with
  | some (loc, .directory) => some loc
  | _ => none

end FileTree

------------------------------------------------------------
-- Locations As Paths
------------------------------------------------------------

namespace Location

/- The absolute path of a location. -/
def toPath (loc : Location) : Path :=
  "/" ++ Text.joinWith "/" loc

end Location

end TreeLint
