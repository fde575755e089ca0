import TreeLint.Sandbox.Versions.Staging

/-
  Changing single entries of the index.

  Key definitions include:
    * `Updating.updatePath`
    * `Updating.putInfo`
    * `Updating.update`

  The arguments are dealt with one by one.  An option counts
  for the paths behind it.  A path that an index cannot hold
  is passed over.
-/

------------------------------------------------------------
-- Single Paths
------------------------------------------------------------

namespace TreeLint

namespace Sandbox

namespace Versions

namespace Updating

/- How the paths that follow are dealt with. -/
structure Mode where
  adds : Bool
  removes : Bool
  replaces : Bool
  forceRemoves : Bool
  executable? : Option Bool
  assumed? : Option Bool
  skipped? : Option Bool
  /- A path with several versions does not count. -/
  allowsUnmerged : Bool
  /- A file that is missing does not count. -/
  allowsMissing : Bool
  /- Files that are not as in the index do not count. -/
  isQuiet : Bool
  /- Paths that are read end with a null character. -/
  endsWithNull : Bool

namespace Mode

/- The mode before the first option. -/
def initial : Mode :=
  ⟨false, false, false, false, none, none, none, false, false, false, false⟩

/- The mode behind an option that has no value, if it is one. -/
def afterFlag? (mode : Mode) : String → Option Mode
  | "--add" => some { mode with adds := true }
  | "--remove" => some { mode with removes := true }
  | "--replace" => some { mode with replaces := true }
  | "--force-remove" => some { mode with forceRemoves := true }
  | "--chmod=+x" => some { mode with executable? := some true }
  | "--chmod=-x" => some { mode with executable? := some false }
  | "--assume-unchanged" => some { mode with assumed? := some true }
  | "--no-assume-unchanged" => some { mode with assumed? := some false }
  | "--skip-worktree" => some { mode with skipped? := some true }
  | "--no-skip-worktree" => some { mode with skipped? := some false }
  | "--unmerged" => some { mode with allowsUnmerged := true }
  | "--ignore-missing" => some { mode with allowsMissing := true }
  | "-q" => some { mode with isQuiet := true }
  | "-z" => some { mode with endsWithNull := true }
  | other =>
    if ["--ignore-submodules", "--verbose", "--info-only",
        "--ignore-skip-worktree-entries", "--untracked-cache",
        "--no-untracked-cache", "--force-untracked-cache",
        "--test-untracked-cache", "--split-index", "--no-split-index",
        "--fsmonitor", "--no-fsmonitor", "--clear-resolve-undo",
        "--force-write-index"].contains other then
      some mode
    else none

end Mode

/- Whether a path gets in the way of others that the index holds. -/
def isInWay (index : Index) (p : Path) : Bool :=
  index.any (fun e => Index.collides p e.path)

/- Put an entry into the index as far as that is allowed. -/
def putAllowed (mode : Mode) (complaint : String) (e : Entry) : Job Unit := do
  let index := (← get).index
  if (mode.adds || index.holds e.path)
      && (mode.replaces || !isInWay index e.path) then
    Job.changeIndex fun index => index.put e
  else
    Job.fatal complaint

/- Bring a path of the index up to date with the work tree. -/
def process (mode : Mode) (p : Path) : Job Unit := do
  let desk ← get
  let lens := desk.lens
  let kept := desk.index.entry? p
  let complaint := "Unable to process path " ++ p
  let removeOne : Job Unit :=
    if mode.removes then Job.changeIndex fun index => index.drop p
    else Job.fatal complaint
  if kept.any Entry.skipped then
    if mode.removes then
      Job.changeIndex fun index => index.drop p
  else
    match WorkTree.nodeAt? desk.site desk.files p with
    | none => removeOne
    | some .pipe => Job.fatal complaint
    | some node =>
      WorkTree.check true true [p]
      match WorkTree.entryFor? desk.site desk.files lens kept p with
      | some entry =>
        if kept.any Entry.assumed && node != .directory then pure ()
        else putAllowed mode complaint entry
      | none =>
        if node == .directory && kept.isSome then removeOne
        else Job.fatal complaint

/- Deal with one path. -/
def updatePath (mode : Mode) (word : String) : Job Unit := do
  let desk ← get
  let names ← Job.attempt
    (Spec.namesFromTop desk.site desk.files desk.site.inner word)
  let p := WorkTree.pathOf names
  let marked (set : Entry → Entry) : Job Unit := do
    if desk.index.holds p then
      Job.changeIndex fun index => index.map fun e =>
        if e.path == p then set e else e
    else
      Job.fatal ("Unable to mark file " ++ p)
  if p.isEmpty || !Staging.isGoodPath p then
    Job.complain ("Ignoring path " ++ p)
  else
    match mode.assumed?, mode.skipped? with
    | some assumed, _ => marked fun e => { e with assumed }
    | none, some skipped => marked fun e => { e with skipped }
    | none, none =>
      if mode.forceRemoves then
        Job.changeIndex fun index => index.drop p
      else
        process mode p
  match mode.executable? with
  | none => pure ()
  | some executable =>
    match (← get).index.entry? p with
    | some ⟨_, _, .file _ _, _, _, _, _⟩ =>
      Job.changeIndex fun index => index.map fun e =>
        if e.path == p then Staging.withMode executable e else e
    | _ => Job.fatal ("git update-index: cannot chmod '" ++ p ++ "'")

------------------------------------------------------------
-- Entries As Texts
------------------------------------------------------------

/- What a mode in octal digits makes of a content. -/
def tracked? (mode id : String) (content : List UInt8) : Option Tracked :=
  (Numeral.natural? 8 mode.toList).map fun n =>
    match n / 4096 with
    | 10 => .link (RawByte.decode content)
    | 14 => .nested id
    | 4 => .nested id
    | _ => .file content (n / 64 % 2 == 1)

/- Put an entry with a mode and a name of a content into the index. -/
def putInfo (mode : Mode) (bits id p : String) : Job Unit := do
  let desk ← get
  let content := match stored? desk.world.archive id with
    | some (.blob content) => content
    | _ => []
  let complaint := "git update-index: --cacheinfo cannot add " ++ p
  match tracked? bits id content with
  | some file =>
    if !isId id || p.isEmpty || !Staging.isGoodPath p then
      Job.fatal complaint
    putAllowed mode complaint (Entry.of p file)
  | none => Job.fatal complaint

/- What a line says of an entry: its mode, name, stage and path. -/
def info? (line : String) : Option (String × String × Nat × Path) :=
  let (front, p) := match Text.splitAt '\t' line with
    | front :: rest => (front, Text.joinWith "\t" rest)
    | [] => ("", "")
  let stage? (word : String) : Option Nat :=
    ["0", "1", "2", "3"].findIdx? (fun digit => digit == word)
  match Text.splitAt ' ' front with
  | [bits, id] => if isId id then some (bits, id, 0, p) else none
  | [bits, a, b] =>
    if isId b then some (bits, b, 0, p)
    else if isId a then (stage? b).map fun stage => (bits, a, stage, p)
    else none
  | _ => none

/- Put an entry that a line describes into the index. -/
def putLine (line : String) : Job Unit := do
  let desk ← get
  match info? line with
  | none => Job.fatal ("malformed index info " ++ line)
  | some (bits, id, stage, p) =>
    let content := match stored? desk.world.archive id with
      | some (.blob content) => content
      | _ => []
    match Numeral.natural? 8 bits.toList, tracked? bits id content with
    | some 0, _ => Job.changeIndex fun index => index.drop p
    | some _, some file =>
      Job.changeIndex fun index =>
        if stage == 0 then index.put (Entry.of p file)
        else
          { Entry.of p file with stage } :: index.filter (fun e =>
            e.path != p || e.stage != stage && e.stage != 0)
    | _, _ => Job.fatal ("malformed index info " ++ line)

/- The lines of the input. -/
def inputLines (mode : Mode) : Job (List String) := do
  let text := RawByte.decode (← get).site.call.stdin
  let parts := Text.splitAt (if mode.endsWithNull then '\x00' else '\n') text
  return parts.filter (fun part => !part.isEmpty)

------------------------------------------------------------
-- The Whole Index
------------------------------------------------------------

/- Whether the work tree has all files as they are in the index. -/
def isFresh (mode : Mode) (desk : Desk) : Bool :=
  let insight :=
    { Differences.Insight.of desk with override? := some .changedFiles }
  mode.isQuiet
    || (Differences.ofTree insight desk desk.lens).all
      fun row =>
        !row.differs || (row.isUnmerged && mode.allowsUnmerged)
          || (row.new.isNone && !row.isUnmerged && mode.allowsMissing)

/- Deal again with all paths that differ from the last commit. -/
def again (mode : Mode) (words : List String) : Job Unit := do
  let specs ← Staging.specsOf words
  let desk ← get
  let head := desk.headFiles
  for p in desk.index.paths do
    match desk.index.merged? p with
    | none => pure ()
    | some e =>
      if head.file? p != some e.file && (words.isEmpty || specs.covers p) then
        updatePath mode (":/" ++ p)

/- Go through the arguments one by one. -/
def updateAll (mode : Mode) (code : Int) : List String → Job Int
  | [] => pure code
  | "--cacheinfo" :: info :: rest => do
    match Text.splitAt ',' info, rest with
    | bits :: id :: p :: others, rest =>
      putInfo mode bits id (Text.joinWith "," (p :: others))
      updateAll mode code rest
    | _, id :: p :: rest =>
      putInfo mode info id p
      updateAll mode code rest
    | _, _ =>
      throw (.usage
        "error: option 'cacheinfo' expects <mode>,<sha1>,<path>")
  | "--refresh" :: rest => do
    WorkTree.learn
    let code := if isFresh mode (← get) then code else 1
    updateAll mode code rest
  | "--really-refresh" :: rest => do
    Job.changeIndex fun index =>
      index.map fun e => { e with assumed := false }
    WorkTree.learn
    let code := if isFresh mode (← get) then code else 1
    updateAll mode code rest
  | "--show-index-version" :: rest => do
    Job.say "2"
    updateAll mode code rest
  | "--index-version" :: number :: rest => do
    if !(["2", "3", "4"].contains number) then
      Job.fatal "index-version not in range: 2..4"
    updateAll mode code rest
  | "--chmod" :: sign :: rest =>
    match mode.afterFlag? ("--chmod=" ++ sign) with
    | some mode => updateAll mode code rest
    | none => throw (.usage "error: option 'chmod' expects \"+x\" or \"-x\"")
  | "-g" :: rest => do
    again mode rest
    return code
  | "--again" :: rest => do
    again mode rest
    return code
  | ["--index-info"] => do
    for line in ← inputLines mode do
      putLine line
    return code
  | ["--stdin"] => do
    for word in ← inputLines mode do
      updatePath mode word
    return code
  | "--" :: rest => do
    for word in rest do
      updatePath mode word
    return code
  | word :: rest => do
    match mode.afterFlag? word with
    | some mode => updateAll mode code rest
    | none =>
      if word.startsWith "-" && word != "-" then
        throw (.usage ("error: unknown option \x60" ++ word ++ "'"))
      else
        updatePath mode word
        updateAll mode code rest

/- Change single entries of the index. -/
def update (args : List String) : Job Int := do
  let code ← updateAll Mode.initial 0 args
  Job.saveIndex
  return code

end Updating

end Versions

end Sandbox

end TreeLint
