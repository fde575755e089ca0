import TreeLint.Sandbox.Versions.Blanks
import TreeLint.Sandbox.Versions.PatchReading
import TreeLint.Sandbox.Versions.Reconciling
import TreeLint.Sandbox.Versions.Staging

/-
  Applying patches.

  Key definitions include:
    * `Applying.Manner`
    * `Applying.place?`
    * `Applying.check`
    * `Applying.applyAll`
    * `Applying.apply`

  All patches are checked before anything is written.  The
  lines that go are looked for where they should be, and then
  farther and farther away from there.  Files are taken from
  the work tree or from the index, or from the outcome of a
  patch before.
-/

------------------------------------------------------------
-- Finding Lines
------------------------------------------------------------

namespace TreeLint

namespace Sandbox

namespace Versions

open Joining (Line)

namespace Applying

/- What is done about blanks that should not be there. -/
inductive BlankCare where
  | ignore
  | refuse
  | fix
deriving DecidableEq

/- How patches are applied. -/
structure Manner where
  reading : PatchReading.Manner
  isReversed : Bool
  usesIndex : Bool
  /- The work tree is left alone. -/
  isCached : Bool
  /- The sides are joined first. -/
  joins : Bool
  /- What cannot be applied is written down, the rest is applied. -/
  rejects : Bool
  /- How few lines around a change are enough, if not all are needed. -/
  context? : Option Nat
  addsNothing : Bool
  overlaps : Bool
  ignoresBlanks : Bool
  blanks : BlankCare
  /- Lines that are added are mended. -/
  mends : Bool
  /- Files are only announced, to an index that holds nothing else. -/
  intends : Bool
  applies : Bool
  checks : Bool
  isUnsafe : Bool
  /- Whether a path is wanted, by patterns in their order. -/
  limits : List (String × Bool)
  isQuiet : Bool
  /- There may be no patch at all. -/
  allowsEmpty : Bool
  favor? : Option Joining.Favor
  /- What the sides of a conflict are called. -/
  labels : Joining.Labels

/- The lines of a file; a flag says that a patch has put one there. -/
abbrev Image := List (Line × Bool)

/- A line in which blanks do not count. -/
def withoutBlanks (line : Line) : Line :=
  let isBlank (b : UInt8) : Bool := b == 32 || (9 ≤ b && b ≤ 13)
  let rec go : Bool → Line → Line
    | _, [] => []
    | wasBlank, b :: rest =>
      if isBlank b then go true rest
      else if wasBlank then 32 :: b :: go false rest
      else b :: go false rest
  go false line

/- Whether a line is the one that is looked for. -/
def isSame (m : Manner) (a b : Line) : Bool :=
  a == b || (m.ignoresBlanks && withoutBlanks a == withoutBlanks b)

/- Whether no patch has put lines there. -/
def isUntouched (lines : Image) : Bool :=
  lines.all fun (_, isDone) => !isDone

/- Where lines are looked for. -/
structure Search where
  old : List Line
  isAtStart : Bool
  isAtEnd : Bool

/-
  Whether lines are found at a place, and what stands for them
  there.  Where blanks are to be mended, lines may be found
  that are the same once they are mended, and empty lines need
  not be there at the end of a file.
-/
def foundAt? (m : Manner) (rules : BlankRules) (image : Image) (s : Search)
    (n : Nat) : Option (List Line) :=
  let count := s.old.length
  let there := (image.drop n).take count
  let lines := there.map Prod.fst
  let isWhole := n + count ≤ image.length
  let mayEnd := isWhole || (m.blanks == .fix && rules.atFileEnd)
  if !mayEnd || image.length < n
      || (isWhole && s.isAtEnd && n + count != image.length)
      || (s.isAtStart && n != 0)
      || !isUntouched there then none
  else if isWhole && lines == s.old then some s.old
  else if m.ignoresBlanks then
    if isWhole && (s.old.zip lines).all (fun (a, b) => isSame m a b) then
      some lines
    else none
  else if m.blanks != .fix then none
  else
    let mended := s.old.map rules.mended
    let isSettled := mended.take lines.length == lines.map rules.mended
      && (mended.drop lines.length).all BlankRules.isEmptyLine
      && (isWhole
        || (s.old.take lines.length).any
          (fun line => !BlankRules.isEmptyLine line))
    if isSettled then some mended else none

/- The places to look at, the nearest first. -/
def places (count start : Nat) : List Nat :=
  start :: (List.range count).flatMap fun n =>
    (if start + n + 1 ≤ count then [start + n + 1] else [])
      ++ (if n + 1 ≤ start then [start - (n + 1)] else [])

/- The nearest place where lines are found, and what is there. -/
def place? (m : Manner) (rules : BlankRules) (image : Image) (s : Search)
    (wanted : Nat) : Option (Nat × List Line) :=
  let start :=
    if s.isAtStart then 0
    else if s.isAtEnd then
      if s.old.length ≤ image.length then image.length - s.old.length
      else image.length
    else min wanted image.length
  (places image.length start).findSome? fun n =>
    (foundAt? m rules image s n).map (n, ·)

/- A fragment that is looked for. -/
structure Attempted where
  lines : List (LineSide × Line)
  leading : Nat
  trailing : Nat
  wanted : Nat
  isAtStart : Bool
  isAtEnd : Bool

/- The lines on one side. -/
def sideOf (other : LineSide) (lines : List (LineSide × Line)) :
    List Line :=
  (lines.filter (fun (side, _) => side != other)).map Prod.snd

/-
  Look for a fragment, with fewer and fewer lines around it if
  that is allowed.
-/
def found? (m : Manner) (rules : BlankRules) (image : Image) :
    Nat → Attempted → Option (Nat × List Line × Attempted)
  | 0, _ => none
  | fuel + 1, a =>
    match place? m rules image
        ⟨sideOf .new a.lines, a.isAtStart, a.isAtEnd⟩ a.wanted with
    | some (n, there) => some (n, there, a)
    | none =>
      match m.context? with
      | none => none
      | some context =>
        if a.leading ≤ context && a.trailing ≤ context then none
        else if a.isAtStart || a.isAtEnd then
          found? m rules image fuel { a with isAtStart := false, isAtEnd := false }
        else
          let b := if a.trailing ≤ a.leading then
              { a with
                lines := a.lines.drop 1
                wanted := a.wanted - 1
                leading := a.leading - 1 }
            else a
          let c := if b.leading < b.trailing then
              { b with
                lines := b.lines.dropLast
                trailing := b.trailing - 1 }
            else b
          found? m rules image fuel c

/- The lines that come in the place of others. -/
def replacement (m : Manner) (rules : BlankRules) :
    List (LineSide × Line) → List Line → Image
  | [], _ => []
  | (.old, _) :: rest, there => replacement m rules rest (there.drop 1)
  | (.both, line) :: rest, there =>
    (there.head?.getD line, !m.overlaps)
      :: replacement m rules rest (there.drop 1)
  | (.new, line) :: rest, there =>
    if m.addsNothing then replacement m rules rest there
    else
      (if m.mends then rules.mended line else line, !m.overlaps)
        :: replacement m rules rest there

/- How many empty lines are added at the end of a fragment. -/
def emptyAtEnd (rules : BlankRules) (lines : List (LineSide × Line)) : Nat :=
  if !rules.atFileEnd then 0
  else
    lines.foldl
      (fun n ((side, line) : LineSide × Line) =>
        match side, BlankRules.isEmptyLine line with
        | .new, true => n + 1
        | .both, true => n
        | _, _ => 0)
      0

/- What fragments make of the lines of a file. -/
structure Applied where
  image : Image
  /- What could not be applied. -/
  rejected : List Fragment
  /- Empty lines come to stand at the end of the file. -/
  endsEmpty : Bool

/- Apply one fragment, if its lines are found. -/
def withFragment? (m : Manner) (rules : BlankRules) (image : Image)
    (f : Fragment) : Option (Image × Bool) :=
  let isBare := m.reading.isBare
  let a : Attempted :=
    { lines := f.lines
      leading := f.leading
      trailing := f.trailing
      wanted := f.newStart - 1
      isAtStart := f.oldStart == 0 || (f.oldStart == 1 && !isBare)
      isAtEnd := !isBare && f.trailing == 0 }
  (found? m rules image (f.lines.length + 3) a).map fun (n, there, a) =>
    let count := (sideOf .new a.lines).length
    let lines := replacement m rules a.lines there
    let empty := if image.length ≤ n + count && !m.addsNothing then
        emptyAtEnd rules f.lines
      else 0
    let lines := if m.blanks == .fix then
        lines.take (lines.length - empty)
      else lines
    (image.take n ++ lines ++ image.drop (n + count), empty != 0)

/- Apply fragments. -/
def withFragments (m : Manner) (rules : BlankRules) :
    Image → List Fragment → Applied
  | image, [] => ⟨image, [], false⟩
  | image, f :: rest =>
    match withFragment? m rules image f with
    | some (image, endsEmpty) =>
      let applied := withFragments m rules image rest
      { applied with endsEmpty := endsEmpty || applied.endsEmpty }
    | none =>
      let applied := withFragments m rules image rest
      { applied with rejected := f :: applied.rejected }

/- The lines of a content as an image. -/
def imageOf (content : List UInt8) : Image :=
  (Joining.linesOf content).map (·, false)

/- The content of an image. -/
def contentOf (image : Image) : List UInt8 :=
  image.flatMap Prod.fst

------------------------------------------------------------
-- Checking Patches
------------------------------------------------------------

/- What patches before have done to a path. -/
inductive Earlier where
  /- A patch is going to remove it. -/
  | willGo
  | isGone
  | result (content : List UInt8) (mode : String)

/- What a patch comes to. -/
structure Outcome where
  patch : FilePatch
  content : List UInt8
  rejected : List Fragment
  isRejected : Bool
  /- Empty lines come to stand at the end. -/
  endsEmpty : Bool
  /- The contents that could not be joined without conflict. -/
  conflict? : Option (Option Tracked × Tracked × Tracked)

/- A patch cannot be applied. -/
def refuse {α : Type} (text : String) : Job α :=
  Job.fail 1 ("error: " ++ text)

/- The mode of a node of the work tree. -/
def modeOfNode (lens : Lens) (kept? : Option Entry) : Node → String
  | .file _ executable =>
    let executable := if lens.seesModes then executable
      else (kept?.map (fun e => WorkTree.isExecutable e.file)).getD false
    if executable then "100755" else "100644"
  | .link _ => "120000"
  | .directory => if kept?.isSome then "160000" else "040000"
  | .pipe => "010000"

/- The kind of file that a mode tells. -/
def kindOf (mode : String) : String :=
  String.ofList (mode.toList.take 3)

/- The content of a file that is kept. -/
def bytesOf : Tracked → List UInt8
  | .file content _ => content
  | .link target => RawByte.encode target
  | .nested id => RawByte.encode ("Subproject commit " ++ id ++ "\n")

/- A content as a file of a mode. -/
def fileOf (content : List UInt8) (mode : String) : Tracked :=
  if mode == "120000" then .link (RawByte.decode content)
  else if mode == "160000" then
    .nested (String.ofList
      (((RawByte.decode content).toList.drop 18).take 40))
  else .file content (mode == "100755")

/- The path that a link hides, if one is on the way to it. -/
def isBeyondLink (site : Site) (t : FileTree) (p : Path) : Bool :=
  let names := namesOf p
  ((List.range names.length).drop 1).any fun n =>
    match t.node? (site.top ++ names.take n) with
    | some (.link _) => true
    | _ => false

/- The node of a path in the work tree. -/
def nodeOf? (desk : Desk) (p : Path) : Option Node :=
  if isBeyondLink desk.site desk.files p then
    (desk.files.locateEntry desk.site.top p).toOption.bind desk.files.node?
  else desk.files.node? (WorkTree.locationOf desk.site p)

/- Whether the lines that a patch takes away have returns. -/
def hasReturns (m : Manner) (p : FilePatch) : Bool :=
  let countsBoth := m.blanks == .fix && !m.isReversed
  p.fragments.any fun f =>
    f.lines.any fun (side, line) =>
      (side == .old || (side == .both && countsBoth))
        && [13, 10].isSuffixOf line

/- The rules for the blanks that a patch adds. -/
def rulesFor (m : Manner) (desk : Desk) (p : FilePatch) : BlankRules :=
  let name := (p.newName?.orElse fun _ => p.oldName?).getD ""
  let rules := (BlankRules.at' desk.site desk.lens name).getD
    BlankRules.none'
  if hasReturns m p then { rules with endsWithReturn := true } else rules

/- The content of a node of the work tree as it is kept. -/
def cleaned (m : Manner) (desk : Desk) (p : FilePatch) (name : Path) :
    Node → List UInt8
  | .file content _ =>
    if hasReturns m p then content
    else { desk.lens with spares := false }.clean none name content
  | .link target => RawByte.encode target
  | _ => []

/-
  Look at the file that a patch changes; the outcome is the
  patch with what has become clear, and the old content.
-/
def preimage (m : Manner) (known : List (Path × Earlier)) (p : FilePatch) :
    Job (FilePatch × List UInt8) := do
  let desk ← get
  match p.oldName? with
  | none => return (p, [])
  | some name =>
    let earlier? := if p.isCopied || p.isRenamed then none
      else known.lookup name
    let asNew : FilePatch :=
      { p with isNew? := some true, isGone? := some false, oldName? := none }
    let settled (mode : String) (content : List UInt8) :
        Job (FilePatch × List UInt8) := do
      let oldMode := p.oldMode?.getD mode
      if kindOf mode != kindOf oldMode then
        refuse (name ++ ": wrong type")
      return ({ p with
          isNew? := some false
          oldMode? := some oldMode
          newMode? := if p.isGone then p.newMode?
            else p.newMode?.orElse fun _ => some mode },
        content)
    match earlier? with
    | some .isGone =>
      refuse ("path " ++ name ++ " has been renamed/deleted")
    | some (.result content mode) => settled mode content
    | _ =>
      let node? := if m.isCached then none else nodeOf? desk name
      if m.usesIndex then
        match desk.index.merged? name with
        | none =>
          if p.isNew?.isNone then return (asNew, [])
          refuse (name ++ ": does not exist in index")
        | some e =>
          match node?, m.isCached with
          | some node, false =>
            let isStale := match node with
              | .file content _ =>
                e.worn.isSome && !WorkTree.isAsRemembered desk.site
                  desk.files (some e) name content
              | _ => false
            if isStale || WorkTree.seen? desk.site desk.files desk.lens
                (some e) name != some e.file then
              refuse (name ++ ": does not match index")
            settled (modeOfNode desk.lens (some e) node) (bytesOf e.file)
          | none, false =>
            let lens := desk.lens
            Job.changeFiles fun t =>
              WorkTree.layOut desk.site lens t name e.file
            settled (modeOf e.file) (bytesOf e.file)
          | _, true => settled (modeOf e.file) (bytesOf e.file)
      else
        match node? with
        | none =>
          if p.isNew?.isNone then return (asNew, [])
          refuse (name ++ ": No such file or directory")
        | some node =>
          let mode := modeOfNode desk.lens (desk.index.merged? name) node
          if isBeyondLink desk.site desk.files name
              && kindOf mode == kindOf (p.oldMode?.getD mode) then
            refuse ("reading from '" ++ name ++ "' beyond a symbolic link")
          settled mode (cleaned m desk p name node)

/- Check that a file can be created; a patch may make way for it. -/
def checkNew (m : Manner) (isFreed : Bool) (name : Path) : Job Unit := do
  let desk ← get
  if m.usesIndex && (!isFreed || !m.isCached) then
    match desk.index.merged? name with
    | some e =>
      if !isFreed && !e.intended then
        refuse (name ++ ": already exists in index")
      if !m.isCached && e.intended then
        refuse (name ++ ": does not match index")
    | none => pure ()
  if !m.isCached then
    match nodeOf? desk name with
    | none => pure ()
    | some .directory => pure ()
    | some _ =>
      if !isFreed && !isBeyondLink desk.site desk.files name then
        refuse (name ++ ": already exists in working directory")

/- Whether a name leads out of the work tree, or into its administration. -/
def isBadName (name : Path) : Bool :=
  name.startsWith "/" || !Staging.isGoodPath name
    || (Text.splitAt '/' name).any fun part =>
      part.isEmpty || part == Path.current || part == Path.parent

/- The content under the beginning of a digest. -/
def contentUnder? (desk : Desk) (id : String) : Option (List UInt8) :=
  if id.isEmpty then none
  else
    let archive := desk.world.archive
    let direct := (archive.objects.find? (fun (name, _) =>
      name.startsWith id)).map Prod.snd
    match direct with
    | some (.blob content) => some content
    | _ =>
      (snapshotsOf archive).findSome? fun files =>
        files.findSome? fun ((_, file) : Path × Tracked) =>
          match file with
          | .file content _ =>
            if (blobId content).startsWith id then some content else none
          | _ => none

/-
  Join what a patch makes of the content it was made for with
  the content that is there, if the former is known.
-/
def joined? (m : Manner) (p : FilePatch) (isTaken : Bool)
    (ours : List UInt8) :
    Job (Option (List UInt8 × Option (Option Tracked × Tracked × Tracked))) := do
  let desk ← get
  let isIdle := p.isGone || (p.isNew && !isTaken)
    || (p.isRenamed && p.changedLines == 0)
  if isIdle then return none
  let base? := if p.isNew then some [] else contentUnder? desk p.oldId
  match base? with
  | none =>
    Job.complain ("error: repository lacks the necessary blob to perform "
      ++ "3-way merge.")
    return none
  | some base =>
    let applied := withFragments m (rulesFor m desk p) (imageOf base)
      p.fragments
    if !applied.rejected.isEmpty then return none
    let theirs := contentOf applied.image
    let name := p.newName?.getD ""
    let present? : Option (List UInt8) :=
      if !p.isNew then some ours
      else
        match desk.index.merged? name with
        | none => none
        | some e =>
          if m.isCached then some (bytesOf e.file)
          else
            match nodeOf? desk name with
            | none => some (bytesOf e.file)
            | some _ =>
              if WorkTree.seen? desk.site desk.files desk.lens (some e) name
                  == some e.file then some (bytesOf e.file)
              else none
    match present? with
    | none =>
      Job.complain ("error: " ++ name ++ ": does not match index")
      return none
    | some ours =>
      let mode := p.newMode?.getD "100644"
      if theirs == base || ours == theirs then return some (ours, none)
      if ours == base then return some (theirs, none)
      let rules := Reconciling.rulesFor desk.world desk.site desk.lens
        m.labels m.favor? false
      let (content, isFine) :=
        Joining.contents (rules.manner name) base ours theirs
      if isFine then return some (content, none)
      let before := if p.isNew then none else some (fileOf base mode)
      return some (content,
        some (before, fileOf ours mode, fileOf theirs mode))

/- Whether lines that a patch adds have blanks that are faults. -/
def addsBlanks (m : Manner) (desk : Desk) (p : FilePatch) : Bool :=
  let rules := rulesFor m desk p
  p.fragments.any fun f =>
    f.lines.any fun (side, line) => side == .new && rules.isFaulty line

/- Check one patch and work out what it comes to. -/
def checkOne (m : Manner) (known : List (Path × Earlier))
    (p : FilePatch) : Job Outcome := do
  let name := p.name
  let (p, content) ← preimage m known p
  let isFreed := (p.newName?.bind fun name => known.lookup name).any
    fun earlier => match earlier with
      | .willGo => true
      | .isGone => true
      | .result _ _ => false
  let mut isTaken := false
  match p.newName? with
  | some new =>
    if p.isNew || p.isRenamed || p.isCopied then
      try checkNew m isFreed new
      catch failure =>
        if m.joins && failure.code == 1 then isTaken := true
        else throw failure
  | none => pure ()
  let p := match p.newMode? with
    | some _ => p
    | none =>
      { p with newMode? := if p.isNew then some "100644" else p.oldMode? }
  match p.oldName?, p.newName?, p.oldMode?, p.newMode? with
  | some _, some new, some a, some b =>
    if kindOf a != kindOf b then
      refuse ("new mode (" ++ b ++ ") of " ++ new
        ++ " does not match old mode (" ++ a ++ ")")
  | _, _, _, _ => pure ()
  let bad? := (p.oldName?.toList ++ p.newName?.toList).find? isBadName
  match bad?, m.isUnsafe with
  | some bad, false => Job.fail 128 ("error: invalid path '" ++ bad ++ "'")
  | _, _ => pure ()
  let desk ← get
  if !p.isGone && !m.isCached && isBeyondLink desk.site desk.files
      (p.newName?.getD "") then
    refuse ("affected file '" ++ p.newName?.getD ""
      ++ "' is beyond a symbolic link")
  let direct : Job Outcome := do
    if p.isBinary then
      refuse ("cannot apply binary patch to '" ++ name
        ++ "' without full index line\nerror: " ++ name
        ++ ": patch does not apply")
    let applied := withFragments m (rulesFor m desk p) (imageOf content)
      p.fragments
    if !applied.rejected.isEmpty && !m.rejects then
      let line := (applied.rejected.head?.map Fragment.oldStart).getD 0
      refuse ("patch failed: " ++ name ++ ":" ++ toString line
        ++ "\nerror: " ++ name ++ ": patch does not apply")
    return ⟨p, contentOf applied.image, applied.rejected, false,
      applied.endsEmpty, none⟩
  let joined? ← if m.joins then joined? m p isTaken content else pure none
  let outcome : Outcome ← match joined? with
    | some (content, conflict?) =>
      pure (⟨p, content, [], false, false, conflict?⟩ : Outcome)
    | none =>
      if isTaken then
        refuse (p.newName?.getD "" ++ ": patch does not apply")
      direct
  if p.isGone && !outcome.content.isEmpty then
    refuse ("removal patch leaves file contents")
  return outcome

/- What later patches know once a patch has been checked. -/
def remembered (known : List (Path × Earlier)) (o : Outcome) :
    List (Path × Earlier) :=
  let p := o.patch
  let known := match p.newName? with
    | some name =>
      (name, .result o.content (p.newMode?.getD "100644")) :: known
    | none => known
  match p.oldName? with
  | some name =>
    if p.newName?.isNone || p.isRenamed then (name, .isGone) :: known
    else known
  | none => known

/- Check patches one after the other; the flag says that all is well. -/
def check (m : Manner) : List (Path × Earlier) → List FilePatch →
    Job (List Outcome × Bool)
  | _, [] => return ([], true)
  | known, p :: rest => do
    let (outcome, isFine) ← try
        let outcome ← checkOne m known p
        pure (outcome, true)
      catch failure =>
        if failure.code == 1 then
          Job.complain failure.text
          pure ((⟨p, [], p.fragments, true, false, none⟩ : Outcome), false)
        else throw failure
    let known := if isFine then remembered known outcome else known
    let (more, areFine) ← check m known rest
    return (outcome :: more, isFine && areFine)

------------------------------------------------------------
-- Writing Results
------------------------------------------------------------

/- Take a file away. -/
def dropFile (m : Manner) (prunes : Bool) (name : Path) : Job Unit := do
  let site := (← get).site
  if m.usesIndex && !m.intends then
    Job.changeIndex fun index => index.drop name
  if !m.isCached then
    Job.changeFiles fun t =>
      if prunes then WorkTree.remove site t name
      else t.erase (WorkTree.locationOf site name)

/- Whether something is in the way of a file. -/
def isBlocked (site : Site) (t : FileTree) (name : Path) : Bool :=
  let names := namesOf name
  let isOnWay := ((List.range names.length).drop 1).any fun n =>
    match t.node? (site.top ++ names.take n) with
    | some (.file _ _) => true
    | some .pipe => true
    | _ => false
  let loc := site.top ++ names
  isOnWay || (t.isDirectoryAt loc && !t.isEmptyAt loc)

/- Put a file where a patch wants it. -/
def putFile (m : Manner) (o : Outcome) : Job Unit := do
  let desk ← get
  let name := o.patch.newName?.getD ""
  let mode := o.patch.newMode?.getD "100644"
  let file := fileOf o.content mode
  if !m.isCached then
    if mode != "160000" && isBlocked desk.site desk.files name then
      Job.fail 128 ("error: unable to write file '" ++ name ++ "' mode "
        ++ mode)
    let lens := desk.lens
    Job.changeFiles fun t => WorkTree.layOut desk.site lens t name file
  let t ← Job.files
  let entry (file : Tracked) : Entry :=
    if m.isCached then Entry.of name file
    else WorkTree.worn desk.site t (Entry.of name file)
  match o.conflict? with
  | some (old?, ours, theirs) =>
    let staged (stage : Nat) (file : Tracked) : Entry :=
      { Entry.of name file with stage }
    Job.changeIndex fun index =>
      (index.drop name) ++ (old?.toList.map (staged 1))
        ++ [staged 2 ours, staged 3 theirs]
  | none =>
    if m.usesIndex then
      Job.changeIndex fun index => index.put (entry file)
    else if m.intends then
      Job.changeIndex fun index => index.put
        { Entry.of name (Staging.intendedFile file) with intended := true }

/- The fragments that were not applied, as a text. -/
def rejectedText (o : Outcome) : List UInt8 :=
  let name := o.patch.newName?.getD o.patch.name
  let shown (f : Fragment) : List UInt8 :=
    RawByte.encode ("@@ -" ++ toString f.oldStart ++ ","
        ++ toString f.old.length ++ " +" ++ toString f.newStart ++ ","
        ++ toString f.new.length ++ " @@\n")
      ++ f.lines.flatMap fun (side, line) =>
        (match side with
          | .both => (32 : UInt8)
          | .old => 45
          | .new => 43) :: (if line.getLast? == some 10 then line
            else line ++ RawByte.encode "\n\\ No newline at end of file\n")
  RawByte.encode ("diff a/" ++ name ++ " b/" ++ name
      ++ "\t(rejected hunks)\n")
    ++ o.rejected.flatMap shown

/- Write down what was not applied. -/
def putRejected (o : Outcome) : Job Unit := do
  let site := (← get).site
  let name := o.patch.newName?.getD o.patch.name ++ ".rej"
  Job.complain ("Applying patch " ++ o.patch.name ++ " with "
    ++ toString o.rejected.length ++ " reject"
    ++ (if o.rejected.length == 1 then "..." else "s..."))
  Job.changeFiles fun t =>
    Site.putDeep t (WorkTree.locationOf site name)
      (.file (rejectedText o) false)

/- Write what patches come to; the flag says that all was written. -/
def writeAll (m : Manner) (outcomes : List Outcome) : Job Bool := do
  for o in outcomes do
    if !o.isRejected then
      match o.patch.oldName? with
      | some name =>
        if o.patch.isGone then dropFile m true name
        else if !o.patch.isNew && !o.patch.isCopied then
          dropFile m o.patch.isRenamed name
      | none => pure ()
  for o in outcomes do
    if !o.isRejected then
      if !o.patch.isGone then putFile m o
      if !o.rejected.isEmpty then putRejected o
  return outcomes.all fun o =>
    !o.isRejected && o.rejected.isEmpty && o.conflict?.isNone

------------------------------------------------------------
-- Applying
------------------------------------------------------------

/- Whether a name is wanted, seen from the working directory. -/
def isWanted (m : Manner) (p : FilePatch) : Bool :=
  let name := (p.newName?.orElse fun _ => p.oldName?).getD ""
  let isHere := m.reading.place.isEmpty
    || (name.startsWith m.reading.place && name != m.reading.place)
  let fitting? := m.limits.find? fun (pattern, _) =>
    Wildcard.fitsBehindStart ⟨false, false⟩ pattern name
  isHere && match fitting? with
    | some (_, isIn) => isIn
    | none => !m.limits.any Prod.snd

/- A patch whose names are meant from the working directory. -/
def placed (m : Manner) (p : FilePatch) : FilePatch :=
  if p.isFromTop then p
  else
    let inner (name : Path) : Path := m.reading.place ++ name
    { p with
      oldName? := p.oldName?.map inner
      newName? := p.newName?.map inner }

/- A line of a summary for each patch. -/
def summarize (patches : List FilePatch) : Job Unit := do
  for p in patches do
    Job.say (toString (p.changedLines) ++ "\t" ++ p.name)

/- How much of some patches was applied. -/
inductive Success where
  | whole
  /- There are conflicts. -/
  | partly
  /- Blanks are faults that are not put up with. -/
  | faulty
  /- The index is not to be written. -/
  | none
deriving DecidableEq

/- Apply the patches of a content. -/
def applyAll (m : Manner) (content : List UInt8) : Job Success := do
  let read ← Job.attempt (PatchReading.read m.reading content)
  let turned := if m.isReversed then read.map FilePatch.reversed else read
  let wanted := (turned.map (placed m)).filter (isWanted m)
  let wanted := if m.isReversed then wanted.reverse else wanted
  if read.isEmpty then
    if m.allowsEmpty then return .whole
    Job.fail 128 ("error: No valid patches in input "
      ++ "(allow with \"--allow-empty\")")
  let desk ← get
  let hasFaults := turned.any (addsBlanks m desk)
  let m := { m with mends := m.blanks == .fix && hasFaults }
  let isSpoilt := m.blanks == .refuse && hasFaults
  let applies := m.applies && !isSpoilt
  if m.usesIndex && applies then
    Job.checkLock (← get).site.indexFile
  let going := wanted.filterMap fun p =>
    if p.newName?.isNone || p.isRenamed then
      p.oldName?.map fun name => (name, Earlier.willGo)
    else none
  let (outcomes, isFine) ←
    if m.checks || applies then check m going wanted
    else pure ([], true)
  if !isFine && !m.rejects then return .none
  let endsEmpty := m.blanks == .refuse && outcomes.any Outcome.endsEmpty
  let isWritten ← if applies && !endsEmpty then writeAll m outcomes
    else pure true
  if !m.applies && !m.isQuiet then summarize wanted
  if m.rejects && !(isFine && isWritten) then return .none
  if isSpoilt || endsEmpty then return .faulty
  return if isWritten then .whole else .partly

/- The options of the command. -/
def rules : List String :=
  [ "exclude=", "include=", "p=", "no-add", "stat", "numstat", "summary",
    "check", "index", "N|intent-to-add", "cached", "unsafe-paths", "apply",
    "3|3way", "build-fake-ancestor=", "z", "C=", "whitespace=",
    "ignore-space-change", "ignore-whitespace", "R|reverse",
    "unidiff-zero", "reject", "allow-overlap", "v|verbose", "q|quiet",
    "inaccurate-eof", "recount", "directory=", "allow-empty" ]

/- What is done about blanks, by a word. -/
def blankCare? : String → Option BlankCare
  | "nowarn" => some .ignore
  | "warn" => some .ignore
  | "error" => some .refuse
  | "error-all" => some .refuse
  | "strip" => some .fix
  | "fix" => some .fix
  | _ => none

/- The manner that options ask for. -/
def mannerOf (site : Site) (isOutside : Bool) (arguments : Arguments) :
    Job Manner := do
  let count (name : String) : Job (Option Nat) :=
    match arguments.value? name with
    | none => pure none
    | some text =>
      match Numeral.natural? 10 text.toList with
      | some n => pure (some n)
      | none =>
        throw (.usage ("error: option '" ++ name
          ++ "' expects a numerical value"))
  let strip? ← match arguments.value? "p" with
    | none => pure none
    | some text => pure (some ((Numeral.natural? 10 text.toList).getD 0))
  let context? ← count "C"
  let joins := arguments.has "3way"
  let isCached := arguments.has "cached"
  let usesIndex := isCached || joins || arguments.has "index"
  let onlyTells := arguments.hasAny
    ["stat", "numstat", "summary", "check", "build-fake-ancestor"]
  let rejects := arguments.has "reject"
  if rejects && joins then
    Job.fail 128 ("error: options '--reject' and '--3way' cannot be used "
      ++ "together")
  if isOutside && (usesIndex) then
    Job.fail 128 ("error: '" ++ (if joins then "--3way"
      else if isCached then "--cached" else "--index")
      ++ "' outside a repository")
  let root := match arguments.value? "directory" with
    | some p =>
      if p.isEmpty then ""
      else (if p.endsWith "/" then p else p ++ "/")
    | none => ""
  let care? := match arguments.value? "whitespace" with
    | some word => some word
    | none => site.text? "apply.whitespace"
  let blanks ← match care? with
    | none => pure BlankCare.ignore
    | some word =>
      match blankCare? word with
      | some care => pure care
      | none =>
        throw (.usage ("error: unrecognized whitespace option '" ++ word
          ++ "'"))
  let ignoresBlanks := arguments.hasAny
      ["ignore-space-change", "ignore-whitespace"]
    || site.text? "apply.ignorewhitespace" == some "change"
  let limits := arguments.options.filterMap fun given =>
    if given.name == "include" then given.value?.map (·, true)
    else if given.name == "exclude" then given.value?.map (·, false)
    else none
  let inner := Text.joinWith "/" site.inner
  let applies := !onlyTells || arguments.has "apply" || rejects
  let checks := arguments.has "check"
  return {
    reading :=
      { strip := strip?.getD 1
        isStripKnown := strip?.isSome
        root
        place := if inner.isEmpty || isOutside then "" else inner ++ "/"
        recounts := arguments.has "recount"
        isBare := arguments.has "unidiff-zero"
        isInEarnest := applies || checks }
    isReversed := arguments.has "reverse"
    usesIndex
    isCached
    joins
    rejects
    context?
    addsNothing := arguments.has "no-add"
    overlaps := arguments.has "allow-overlap"
    ignoresBlanks
    blanks
    mends := false
    intends := arguments.has "intent-to-add" && !usesIndex && !isOutside
    applies
    checks
    isUnsafe := arguments.has "unsafe-paths" && !usesIndex
    limits
    isQuiet := arguments.has "quiet"
    allowsEmpty := arguments.has "allow-empty"
    favor? := none
    labels := ⟨"ours", "base", "theirs"⟩ }

/- Apply the patches in files, or in the input. -/
def run (isOutside : Bool) (args : List String) : Job Int := do
  let arguments ← Job.attempt (Arguments.ofTexts rules args)
  let desk ← get
  let site := desk.site
  let m ← mannerOf site isOutside arguments
  let mut isFine := true
  let mut isFaulty := false
  if m.intends && m.applies then
    Job.changeIndex fun _ => []
  let words := if arguments.all.isEmpty then ["-"] else arguments.all
  for word in words do
    let content ← if word == "-" then pure site.call.stdin
      else
        match desk.files.resolved? site.call.cwd word with
        | some (_, .file content _) => pure content
        | some (_, .directory) =>
          Job.fail 128 ("error: can't read patch '" ++ word
            ++ "': Is a directory")
        | some _ => pure []
        | none =>
          Job.fail 128 ("error: can't open patch '" ++ word
            ++ "': No such file or directory")
    let success ← try applyAll m content
      catch failure =>
        if failure.code == 1 then
          Job.complain failure.text
          pure Success.none
        else throw failure
    if success == .none then return 1
    isFine := isFine && success != .partly
    isFaulty := isFaulty || success == .faulty
  if isFaulty then
    Job.fail 128 "error: some lines add whitespace errors."
  let changesIndex := (m.usesIndex || m.intends) && m.applies
  if changesIndex then
    Job.saveIndex
  return if isFine then 0 else 1

end Applying

end Versions

end Sandbox

end TreeLint
