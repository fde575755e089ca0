import TreeLint.Sandbox.Versions.Joining

/-
  Joining two snapshots that come from a third one.

  Key definitions include:
    * `Reconciling.Slot`
    * `Reconciling.movedDirectories`
    * `Reconciling.Table.follow`
    * `Reconciling.Table.settle`
    * `Reconciling.snapshots`
    * `Reconciling.carryOut`

  Each path has a slot for the versions of the three
  snapshots.  A file that one side has moved is looked for
  under its new name, and a new file in a directory that the
  other side has moved goes with the directory.  Every slot is
  then settled on its own, the paths inside of directories
  first, so that a file that stands in the way of a directory
  can get another name.
-/

------------------------------------------------------------
-- Slots
------------------------------------------------------------

namespace TreeLint

namespace Sandbox

namespace Versions

namespace Reconciling

/- One of the two sides. -/
inductive Side where
  | ours
  | theirs
deriving DecidableEq, Repr

/- The other side. -/
def Side.other : Side → Side
  | .ours => .theirs
  | .theirs => .ours

/- The versions that were the same to begin with. -/
inductive Likeness where
  | nothing
  | sides
  /- The old version is also the one of a side. -/
  | kept (side : Side)
deriving DecidableEq, Repr

/- The versions of a path, and where they were before. -/
structure Slot where
  path : Path
  old : Option Tracked
  ours : Option Tracked
  theirs : Option Tracked
  oldPath : Path
  oursPath : Path
  theirsPath : Path
  likeness : Likeness
  /- The sides disagree about the name. -/
  isTorn : Bool
  /- The file has gone to another path. -/
  isGone : Bool

namespace Slot

/- The slot of a path with three versions. -/
def of (p : Path) (old ours theirs : Option Tracked) : Slot where
  path := p
  old
  ours
  theirs
  oldPath := p
  oursPath := p
  theirsPath := p
  likeness :=
    if ours.isSome && ours == theirs then .sides
    else if old.isSome && old == ours then .kept .ours
    else if old.isSome && old == theirs then .kept .theirs
    else .nothing
  isTorn := false
  isGone := false

/- The version of a side. -/
def version? (slot : Slot) : Side → Option Tracked
  | .ours => slot.ours
  | .theirs => slot.theirs

/- The path that the version of a side had. -/
def origin (slot : Slot) : Side → Path
  | .ours => slot.oursPath
  | .theirs => slot.theirsPath

/- Give a side another version, which had a path of its own. -/
def withVersion (slot : Slot) (side : Side) (file : Option Tracked)
    (origin : Path) : Slot :=
  match side with
  | .ours => { slot with ours := file, oursPath := origin }
  | .theirs => { slot with theirs := file, theirsPath := origin }

/- The versions with their stages in an index. -/
def entries (slot : Slot) : List Entry :=
  [(1, slot.old), (2, slot.ours), (3, slot.theirs)].filterMap
    fun (stage, file) =>
      file.map fun file => { Entry.of slot.path file with stage }

end Slot

/- The slots of all paths. -/
abbrev Table := List Slot

namespace Table

/- The slot of a path. -/
def slot (table : Table) (p : Path) : Slot :=
  (table.find? (fun slot => slot.path == p)).getD (Slot.of p none none none)

/- Put a slot in the place of the one of its path. -/
def put (table : Table) (slot : Slot) : Table :=
  slot :: table.filter (fun other => other.path != slot.path)

/- Change the slot of a path. -/
def change (table : Table) (p : Path) (f : Slot → Slot) : Table :=
  table.put (f (table.slot p))

end Table

------------------------------------------------------------
-- Directories That Were Moved
------------------------------------------------------------

/- Whether a file is empty; such files are all alike. -/
def isBare : Tracked → Bool
  | .file [] _ => true
  | _ => false

/- The names that the files of a side have got. -/
def renamed (old new : Snapshot) : List (Path × Path) :=
  let gone := old.filter fun entry =>
    (new.file? entry.1).isNone && !isBare entry.2
  let fresh := new.filter fun entry =>
    (old.file? entry.1).isNone && !isBare entry.2
  if gone.isEmpty || fresh.isEmpty then []
  else (Renames.pairs ⟨false, 7000, Renames.leastScore, false⟩ gone []
      fresh).map (fun pair => (pair.source, pair.dest))

/- Whether a snapshot has files in a directory. -/
def hasDirectory (s : Snapshot) (p : Path) : Bool :=
  s.any fun entry => entry.1.startsWith (p ++ "/")

/- The names of the directory that a path is in. -/
def directoryOf (p : Path) : List String :=
  (namesOf p).dropLast

/-
  The directories that were moved along with a file, by their
  names and new names, the last ones first.  As long as these
  agree, the directories above were moved as well.
-/
def steps (isGone : Path → Bool) : List String → List String →
    List (Path × Path)
  | [], _ => []
  | name :: above, new =>
    let source := WorkTree.pathOf (name :: above).reverse
    if isGone source then
      (source, WorkTree.pathOf new.reverse)
        :: match new with
          | [] => []
          | other :: rest =>
            if other == name then steps isGone above rest else []
    else
      []

/-
  The directories that a side has moved, each with its new
  place: the one to which most of its files have gone.
-/
def movedDirectories (old new : Snapshot) (pairs : List (Path × Path)) :
    List (Path × Path) :=
  let isGone (p : Path) : Bool := hasDirectory old p && !hasDirectory new p
  let all := pairs.flatMap fun (source, dest) =>
    steps isGone (directoryOf source).reverse (directoryOf dest).reverse
  let sources := (all.map Prod.fst).eraseDups
  sources.filterMap fun source =>
    let dests := (all.filter (fun step => step.1 == source)).map Prod.snd
    let most := (dests.map dests.count).foldl max 0
    match dests.eraseDups.filter (fun dest => dests.count dest == most) with
    | [dest] => some (source, dest)
    | _ => none

/- The directory above a path that was moved, with its new place. -/
def movedAbove? (moved : List (Path × Path)) (p : Path) :
    Option (Path × Path) :=
  let names := directoryOf p
  ((List.range names.length).reverse.findSome? fun n =>
    moved.find? fun step => step.1 == WorkTree.pathOf (names.take (n + 1)))

/- The path that a path gets when a directory above it is moved. -/
def movedPath (step : Path × Path) (p : Path) : Path :=
  let rest := without (step.1 ++ "/") p
  if step.2.isEmpty then rest else step.2 ++ "/" ++ rest

/- What is done about files in directories that were moved. -/
inductive Moving where
  | off
  /- Such a file is moved, but that is a conflict. -/
  | asked
  | on
deriving DecidableEq, Repr

/- A table with the names that the files of a side have got. -/
structure Moved where
  table : Table
  pairs : List (Path × Path)
  /- No file was kept from following its directory. -/
  isClean : Bool

/-
  Let new files of a side go where the other side has moved
  their directories.
-/
def followDirectories (moving : Moving) (side : Side) (own : Snapshot)
    (fresh : List Path) (ownMoved otherMoved : List (Path × Path))
    (start : Moved) : Moved :=
  let wanted := fresh.filterMap fun p =>
    (movedAbove? otherMoved p).bind fun step =>
      if ownMoved.any (fun other => other.1 == step.2) then none
      else some (p, movedPath step p)
  let isFree (table : Table) (dest : Path) : Bool :=
    let slot := table.slot dest
    (slot.version? side).isNone && !hasDirectory own dest
      && !(slot.old.isSome && slot.old == slot.ours
        && slot.old == slot.theirs)
      && (wanted.filter (fun other => other.2 == dest)).length == 1
  wanted.foldl
    (fun state (p, dest) =>
      if isFree state.table dest then
        let slot := state.table.slot p
        let others := state.table.filter (fun other => other.path != p)
        let table := Table.change others dest fun target =>
          { target.withVersion side (slot.version? side)
              (slot.origin side) with
            isTorn := target.isTorn || moving == .asked }
        { state with
          table
          pairs := state.pairs.map fun (source, new) =>
            (source, if new == p then dest else new) }
      else
        { state with isClean := false })
    start

------------------------------------------------------------
-- Files That Were Moved
------------------------------------------------------------

/- Labels with the paths of the versions, where these differ. -/
def labelsWith (labels : Joining.Labels) (old ours theirs : Path) :
    Joining.Labels :=
  if old == ours && ours == theirs then labels
  else
    { ours := labels.ours ++ ":" ++ ours
      old := labels.old ++ ":" ++ old
      theirs := labels.theirs ++ ":" ++ theirs }

/- How the contents of a path are joined. -/
structure Rules where
  manner : Path → Joining.Manner
  moving : Moving
  followsNames : Bool

/- Join the versions of two sides, whose paths may differ. -/
def Rules.join (rules : Rules) (extraSigns : Nat) (slot : Slot)
    (ours theirs : Tracked) : Tracked × Bool :=
  let manner := rules.manner slot.path
  Joining.files
    { manner with
      labels := labelsWith manner.labels slot.oldPath slot.oursPath
        slot.theirsPath
      signs := manner.signs + extraSigns }
    slot.old ours theirs

namespace Table

/- Both sides have given a file the same name. -/
def followBoth (table : Table) (source dest : Path) : Table :=
  let from' := table.slot source
  let table := table.change dest fun slot =>
    { slot with old := from'.old, oldPath := source }
  table.change source fun slot => { slot with isGone := true }

/- The sides have given a file two names. -/
def followApart (rules : Rules) (table : Table)
    (source ours theirs : Path) : Table :=
  let from' := table.slot source
  match (table.slot ours).ours, (table.slot theirs).theirs with
  | some a, some b =>
    let all : Slot :=
      { from' with path := source, oursPath := ours, theirsPath := theirs }
    let (joined, isFine) := rules.join 1 all a b
    let isWhole := !isFine && joined == a
    let table := table.change ours fun slot =>
      { slot with ours := some joined, isTorn := true }
    let table := table.change theirs fun slot =>
      { slot with
        theirs := some (if isWhole then b else joined)
        isTorn := true }
    table.change source fun slot => { slot with isTorn := true }
  | _, _ => table

/- One side has given a file another name. -/
def followOne (rules : Rules) (side : Side) (table : Table)
    (source dest : Path) : Table :=
  let from' := table.slot source
  let to' := table.slot dest
  let other := side.other
  let isDeleted := from'.ours.isNone && from'.theirs.isNone
  let isChanged :=
    match from'.version? other, to'.version? side with
    | some a, some b => !isDeleted && !Joining.isAlike a b
    | _, _ => false
  let isTaken := (to'.version? other).isSome && !isChanged
  let leave (table : Table) : Table :=
    table.change source fun slot => { slot with isGone := true }
  if isTaken && !isDeleted then
    match from'.version? other, to'.version? side with
    | some a, some b =>
      let all := { from' with path := dest }.withVersion side (some b) dest
      let (ours, theirs) := if side == .ours then (b, a) else (a, b)
      let (joined, _) := rules.join 1 all ours theirs
      leave (table.put (to'.withVersion side (some joined)
        (to'.origin side)))
    | _, _ => leave table
  else if isTaken then
    leave (table.put { to' with isTorn := true })
  else
    let moved := { to' with old := from'.old, oldPath := source }
    if isChanged then
      (table.put moved).change source fun slot => { slot with old := none }
    else if isDeleted then
      leave (table.put { moved with isTorn := true })
    else
      leave (table.put
        (moved.withVersion other (from'.version? other) source))

/- Look for the files that were moved under their new names. -/
def follow (rules : Rules) (table : Table)
    (ours theirs : List (Path × Path)) : Table :=
  let sources := ((ours ++ theirs).map Prod.fst).mergeSort
    RawByte.precedes |>.eraseReps
  sources.foldl
    (fun table source =>
      match List.lookup source ours, List.lookup source theirs with
      | some a, some b =>
        if a == b then table.followBoth source a
        else followApart rules table source a b
      | some a, none => followOne rules .ours table source a
      | none, some b => followOne rules .theirs table source b
      | none, none => table)
    table

end Table

------------------------------------------------------------
-- Settling
------------------------------------------------------------

/- What two sides make of a snapshot. -/
structure Joined where
  /- The files that the work tree is to hold. -/
  shown : Snapshot
  /- The versions of paths in conflict. -/
  conflicts : List Entry
  /- There is no conflict. -/
  isSettled : Bool

namespace Joined

/- Add what becomes of a slot. -/
def add (joined : Joined) (slot : Slot) (file : Option Tracked)
    (isFine : Bool) : Joined :=
  let shown := match file with
    | some file => (slot.path, file) :: joined.shown
    | none => joined.shown
  if isFine then { joined with shown }
  else
    { shown
      conflicts := slot.entries ++ joined.conflicts
      isSettled := false }

end Joined

/- A path that is not in use, made from one of a side. -/
def freePath (isUsed : Path → Bool) (p : Path) (label : String) : Path :=
  let base := p ++ "~" ++ String.ofList
    (label.toList.map fun c => if c == '/' then '_' else c)
  if isUsed base then
    ((List.range 64).map fun n => base ++ "_" ++ toString n).find?
      (fun q => !isUsed q) |>.getD base
  else
    base

/-
  Settle a slot.  `isCrossed` says that a directory of one side
  stands in the place of the file of `side`.
-/
def settle (rules : Rules) (isUsed : Path → Bool) (slot : Slot)
    (isCrossed : Bool) (side : Side) (joined : Joined) : Joined :=
  let isPlain := !isCrossed && !slot.isTorn
  match slot.likeness, slot.ours, slot.theirs with
  | .sides, ours, _ => joined.add slot ours isPlain
  | .kept kept, _, _ =>
    let file := slot.version? kept.other
    joined.add slot file (isPlain || file.isNone)
  | .nothing, some a, some b =>
    if Joining.isAlike a b then
      let (file, isFine) := rules.join 0 slot a b
      let slot :=
        if isFine && isCrossed then
          { slot with old := none, ours := none, theirs := none }.withVersion
            side (some file) slot.path
        else slot
      joined.add slot (some file) (isFine && isPlain)
    else
      let labels := (rules.manner slot.path).labels
      let oldOf (file : Tracked) : Option Tracked :=
        slot.old.filter (Joining.isAlike file)
      let isFile (file : Tracked) : Bool :=
        Joining.isAlike file (.file [] false)
      let pathOf (isMoved : Bool) (label : String) : Path :=
        if isMoved then freePath isUsed slot.path label else slot.path
      let isOurs := isFile a || !isFile b
      let isTheirs := isFile b || !isFile a
      let ours := { slot with
        path := pathOf isOurs labels.ours, old := oldOf a, theirs := none }
      let theirs := { slot with
        path := pathOf isTheirs labels.theirs, old := oldOf b, ours := none }
      (joined.add ours (some a) false).add theirs (some b) false
  | .nothing, some a, none =>
    joined.add slot (some a) (slot.old.isNone && isPlain)
  | .nothing, none, some b =>
    joined.add slot (some b) (slot.old.isNone && isPlain)
  | .nothing, none, none =>
    joined.add slot none (slot.old.isNone || !slot.isTorn)

/- Settle a slot that may stand in the way of a directory. -/
def Table.settle (rules : Rules) (ours : Snapshot) (table : Table)
    (joined : Joined) (slot : Slot) : Joined :=
  let isUsed (p : Path) : Bool :=
    table.any (fun other => other.path == p
      || other.path.startsWith (p ++ "/"))
      || joined.conflicts.any (fun e => e.path == p)
  if slot.isGone then joined
  else if !hasDirectory joined.shown slot.path then
    Reconciling.settle rules isUsed slot false .ours joined
  else if slot.ours.isNone && slot.theirs.isNone then joined
  else
    let labels := (rules.manner slot.path).labels
    let (side, label) :=
      if hasDirectory ours slot.path then (Side.theirs, labels.theirs)
      else (Side.ours, labels.ours)
    Reconciling.settle rules isUsed
      { slot with path := freePath isUsed slot.path label } true side joined

------------------------------------------------------------
-- Joining Snapshots
------------------------------------------------------------

/- Join two snapshots that come from a third one. -/
def snapshots (rules : Rules) (old ours theirs : Snapshot) : Joined :=
  let table : Table := (Snapshot.paths [old, ours, theirs]).map fun p =>
    Slot.of p (old.file? p) (ours.file? p) (theirs.file? p)
  let pairsOf (new : Snapshot) : List (Path × Path) :=
    if rules.followsNames then renamed old new else []
  let oursPairs := pairsOf ours
  let theirsPairs := pairsOf theirs
  let directoriesOf (new : Snapshot) (pairs : List (Path × Path)) :
      List (Path × Path) :=
    if rules.moving == .off then [] else movedDirectories old new pairs
  let oursAll := directoriesOf ours oursPairs
  let theirsAll := directoriesOf theirs theirsPairs
  let unlike (moved others : List (Path × Path)) : List (Path × Path) :=
    moved.filter fun step => !others.any (fun other => other.1 == step.1)
  let oursMoved := unlike oursAll theirsAll
  let theirsMoved := unlike theirsAll oursAll
  let freshOf (new : Snapshot) : List Path :=
    (new.map Prod.fst).filter fun p => (old.file? p).isNone
  let first := followDirectories rules.moving .ours ours (freshOf ours)
    oursMoved theirsMoved ⟨table, oursPairs, true⟩
  let second := followDirectories rules.moving .theirs theirs
    (freshOf theirs) theirsMoved oursMoved
    ⟨first.table, theirsPairs, first.isClean⟩
  let followed := Table.follow rules second.table first.pairs second.pairs
  let sorted := followed.mergeSort
    fun a b => RawByte.precedes b.path a.path
  let joined := sorted.foldl (Table.settle rules ours followed)
    ⟨[], [], true⟩
  { joined with isSettled := joined.isSettled && second.isClean }

/-
  Bring the index and the work tree to what two sides make of
  a snapshot.  The outcome is the paths for which that is
  refused; if there are any, nothing has changed.
-/
def carryOut (head : Snapshot) (joined : Joined) : Job (List Path) := do
  let refused ← Switching.between false head joined.shown
  if refused.isEmpty then
    let paths := joined.conflicts.map Entry.path
    Job.changeIndex fun index =>
      joined.conflicts
        ++ index.filter (fun e => !paths.contains e.path)
  return refused

------------------------------------------------------------
-- Rules From Settings
------------------------------------------------------------

/- What settings say about directories that were moved. -/
def movingOf (site : Site) : Moving :=
  match site.setting? "merge.directoryrenames" with
  | none => .asked
  | some setting =>
    match Settings.boolean? setting.value with
    | some true => .on
    | some false => .off
    | none => .asked

/- The versions shown in a conflict, by the word for it. -/
def displayOf? (word : String) : Option Joining.Display :=
  if word == "merge" then some .sides
  else if word == "diff3" then some .all
  else if word == "zdiff3" then some .allShort
  else none

/- What a path says about how its contents are joined. -/
inductive Driver where
  | usual
  | favor (favor : Joining.Favor)
  /- A command for the shell. -/
  | command (text : String)

/- The driver of a name. -/
def driverNamed (site : Site) (name : String) : Driver :=
  match site.text? ("merge." ++ name ++ ".driver") with
  | some command => .command command
  | none =>
    if name == "union" then .favor .both
    else if name == "binary" then .favor .whole
    else .usual

/- The driver of a path. -/
def driverOf (site : Site) (lens : Lens) (p : Path) : Driver :=
  let otherwise := match site.text? "merge.default" with
    | some name => driverNamed site name
    | none => .usual
  if lens.attributes.isEmpty then otherwise
  else
    match Attributes.value lens.attributes (namesOf p) "merge" with
    | .isUnset => .favor .whole
    | .text name => driverNamed site name
    | .isSet => .usual
    | .unspecified => otherwise

/- A command with the names of files put into it. -/
def filled (values : List (Char × String)) : List Char → List Char
  | '%' :: c :: rest =>
    match List.lookup c values with
    | some value => value.toList ++ filled values rest
    | none => '%' :: c :: filled values rest
  | c :: rest => c :: filled values rest
  | [] => []

/- Let a command join contents, in files at the top of a work tree. -/
def runDriver (world : World) (site : Site) (command : String)
    (signs : Nat) (p : Path) (old ours theirs : List UInt8) :
    List UInt8 × Bool :=
  let cwd := site.top?.getD site.admin
  let names := [".merge_file_old", ".merge_file_ours", ".merge_file_theirs"]
  let files := (names.zip [old, ours, theirs]).foldl
    (fun (t : FileTree) (name, content) =>
      t.put (cwd ++ [name]) (.file content false))
    world.files
  let values := ['O', 'A', 'B'].zip names
    ++ [('L', toString signs), ('P', Filter.shellQuoted p)]
  let script := String.ofList (filled values command.toList)
  let start : Start := ⟨"sh", ["-c", script], site.call.env, cwd, [], false⟩
  match site.call.launch (world.withFiles files) start with
  | some ran =>
    ((ran.world.files.read? cwd ".merge_file_ours").getD ours,
      ran.code == some 0)
  | none => (ours, false)

/- How many signs mark a conflict in a path. -/
def signsOf (lens : Lens) (p : Path) : Nat :=
  if lens.attributes.isEmpty then 7
  else
    match Attributes.value lens.attributes (namesOf p)
        "conflict-marker-size" with
    | .text digits =>
      match Numeral.natural? 10 digits.toList with
      | some 0 => 7
      | some n => n
      | none => 7
    | _ => 7

/- The rules of a site, with what was asked for a single time. -/
def rulesFor (world : World) (site : Site) (lens : Lens)
    (labels : Joining.Labels) (favor? : Option Joining.Favor)
    (followsNames : Bool) : Rules where
  manner := fun p =>
    let driver := driverOf site lens p
    let signs := signsOf lens p
    { labels
      favor? := match driver, favor? with
        | .favor .whole, some .ours => some .ours
        | .favor .whole, some .theirs => some .theirs
        | .favor favor, _ => some favor
        | _, favor? => favor?
      display := ((site.text? "merge.conflictstyle").bind displayOf?).getD
        .sides
      signs
      driver? := match driver with
        | .command command => some (runDriver world site command signs p)
        | _ => none }
  moving := movingOf site
  followsNames

end Reconciling

end Versions

end Sandbox

end TreeLint
