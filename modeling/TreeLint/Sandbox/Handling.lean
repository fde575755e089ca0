import TreeLint.Sandbox.Options

/-
  Programs that handle files.

  Key definitions include:
    * `Handling.eachPath`
    * `Handling.remove`
    * `Handling.move`
    * `Handling.copy`
    * `Handling.link`
    * `Handling.setModes`
    * `Handling.table`

  Each program goes through its paths one by one.  It goes on
  behind a path that it could not handle, but then fails in the
  end.  A path is named in two ways: as the entry of a
  directory, which may be a link, and as the place where the
  links lead.
-/

------------------------------------------------------------
-- Paths One By One
------------------------------------------------------------

namespace TreeLint

namespace Sandbox

namespace Handling

/- A file tree after a step, with what there is to complain about. -/
abbrev Step : Type := FileTree × List String

/- Do something for each of many things. -/
def eachPath {α : Type}
    (program : String)
    (world : World)
    (things : List α)
    (action : FileTree → α → Step) : Ran :=
  let (files, complaints) := things.foldl
    (fun (files, complaints) thing =>
      let (files, more) := action files thing
      (files, complaints ++ more))
    (world.files, [])
  Ran.ending (world.withFiles files)
    (some (if complaints.isEmpty then 0 else 1)) []
    (RawByte.encode (String.join
      (complaints.map (fun text => program ++ ": " ++ text ++ "\n"))))

/- A step that went well or not at all. -/
def attempt
    (files : FileTree)
    (result : Except String FileTree) : Step :=
  match result with
  | .ok files => (files, [])
  | .error complaint => (files, [complaint])

/- A result of the file tree with a complaint put in front of the reason. -/
def orReason {α : Type}
    (complaint : String)
    (result : Except FileTree.PathError α) : Except String α :=
  result.mapError (fun e => complaint ++ ": " ++ reason e)

/- A text in quotes. -/
def quoted (text : String) : String :=
  "'" ++ text ++ "'"

/- The last name of a path, with no slash behind it. -/
def lastName (p : Path) : String :=
  ((p.segments.filter (fun s => !s.isEmpty)).getLast?).getD ""

/- Whether a path ends in a name that stands for a directory. -/
def endsInDots (p : Path) : Bool :=
  lastName p == Path.current || lastName p == Path.parent

/- A program that wants at least one path. -/
def needingPaths (options : Options) (ran : Ran) : Except String Ran :=
  if options.words.isEmpty then .error "missing operand" else .ok ran

/- Whether a text is a consent. -/
def isConsent (answer : List UInt8) : Bool :=
  match answer with
  | b :: _ => b == 121 || b == 89
  | [] => false

------------------------------------------------------------
-- Making And Removing
------------------------------------------------------------

/- Whether a failure says that there is nothing to remove. -/
def isMissing : FileTree.PathError → Bool
  | .notFound => true
  | .notDirectory => true
  | _ => false

/- Remove one path. -/
def removeOne
    (cwd : Location)
    (deep force alsoEmpty : Bool)
    (files : FileTree)
    (p : Path) : Except String FileTree :=
  let complaint := "cannot remove " ++ quoted p
  if deep && endsInDots p then
    .error ("refusing to remove '.' or '..' directory: skipping "
      ++ quoted p)
  else
    match files.locateEntry cwd p with
    | .error e =>
      if force && isMissing e then .ok files
      else .error (complaint ++ ": " ++ reason e)
    | .ok [] =>
      .error ("it is dangerous to operate recursively on '/'\n"
        ++ "rm: use --no-preserve-root to override this failsafe")
    | .ok loc =>
      if !files.isDirectoryAt loc then .ok (files.erase loc)
      else if deep then
        let isBehindLink :=
          (files.locateEntry cwd (FileTree.withoutSlashes p)).toOption
            != some loc
        if !isBehindLink then .ok (files.erase loc)
        else if force then .ok ((files.erase loc).put loc .directory)
        else .error (complaint ++ ": Not a directory")
      else if !alsoEmpty || endsInDots p then
        .error (complaint ++ ": Is a directory")
      else if files.isEmptyAt loc then .ok (files.erase loc)
      else .error (complaint ++ ": Directory not empty")

/- Remove files, and directories if asked to. -/
def remove (world : World) (start : Start) : Ran :=
  withOptions "rm" 1
    ⟨"firRdIv", "",
      [("force", 'f'), ("interactive", 'i'), ("recursive", 'r'),
        ("dir", 'd'), ("verbose", 'v'), ("one-file-system", ' '),
        ("preserve-root", ' '), ("no-preserve-root", ' ')]⟩
    world start fun options =>
      let deep := options.has 'r' || options.has 'R'
      let mode := options.last "fiI"
      let force := mode == some 'f'
      if force && options.words.isEmpty then .ok (Ran.silent world 0)
      else
        let isRefused := mode == some 'i' && !isConsent start.stdin
        needingPaths options
          (eachPath "rm" world options.words fun files p =>
            attempt files
              ((removeOne start.cwd deep force (options.has 'd') files p).map
                (fun removed => if isRefused then files else removed)))

/- Make directories. -/
def makeDirectories (world : World) (start : Start) : Ran :=
  withOptions "mkdir" 1
    ⟨"pvZ", "m", [("parents", 'p'), ("mode", 'm'), ("verbose", 'v')]⟩
    world start fun options =>
      needingPaths options
        (eachPath "mkdir" world options.words fun files p =>
          let complaint := "cannot create directory " ++ quoted p
          let place := files.locateEntry start.cwd (FileTree.withoutSlashes p)
          attempt files
            (match place.toOption with
            | some _ =>
              if options.has 'p'
                  && (files.directory? start.cwd p).isSome then
                .ok files
              else
                .error (complaint ++ ": File exists")
            | none =>
              if p.isEmpty then
                .error (complaint ++ ": No such file or directory")
              else if options.has 'p' then
                orReason complaint
                  ((files.makeDirectory start.cwd p).map Prod.fst)
              else
                orReason complaint
                  (files.putNew? start.cwd p .directory)))

/- Remove one empty directory. -/
def removeEmptyOne
    (cwd : Location)
    (files : FileTree)
    (p : Path) : Except String FileTree :=
  let complaint := "failed to remove " ++ quoted p
  if lastName p == Path.current then
    .error (complaint ++ ": Invalid argument")
  else
    match orReason complaint
        (files.locateEntry cwd (FileTree.withoutSlashes p)) with
    | .error text => .error text
    | .ok loc =>
      match files.node? loc with
      | some .directory =>
        if files.isEmptyAt loc then .ok (files.erase loc)
        else .error (complaint ++ ": Directory not empty")
      | some (.link _) =>
        if p.endsWith "/" then
          .error (complaint ++ ": Symbolic link not followed")
        else
          .error (complaint ++ ": Not a directory")
      | _ => .error (complaint ++ ": Not a directory")

/- A path and the paths to the directories above it. -/
def withParents (p : Path) : List Path :=
  let names := p.segments.filter (fun s => !s.isEmpty)
  let front := if p.isAbsolute then "/" else ""
  p :: (List.range (names.length - 1)).map fun n =>
    front ++ Text.joinWith "/" (names.take (names.length - 1 - n))

/- Remove empty directories. -/
def removeEmpty (world : World) (start : Start) : Ran :=
  withOptions "rmdir" 1
    ⟨"pvi", "",
      [("parents", 'p'), ("verbose", 'v'),
        ("ignore-fail-on-non-empty", 'i')]⟩
    world start fun options =>
      let one (files : FileTree) (p : Path) : Step :=
        match removeEmptyOne start.cwd files p with
        | .ok files => (files, [])
        | .error text =>
          if options.has 'i' && text.endsWith "not empty" then (files, [])
          else (files, [text])
      let all (files : FileTree) (p : Path) : Step :=
        (if options.has 'p' then withParents p else [p]).foldl
          (fun (step : Step) p =>
            if step.2.isEmpty then one step.1 p else step)
          (files, [])
      needingPaths options (eachPath "rmdir" world options.words all)

/- The stamp that options ask for; without one it is that of now. -/
def stampAsked (world : World) (start : Start) (options : Options) :
    Except String Stamp :=
  let at' (moment? : Option Moment) (text : String) :
      Except String Stamp :=
    match moment? with
    | some moment => .ok ⟨moment - World.beginning, 0, 0⟩
    | none => .error ("invalid date format " ++ quoted text)
  let files := world.files
  match options.value? 't', options.value? 'r', options.value? 'd' with
  | some text, none, none => at' (Moment.ofCompact? 2025 text) text
  | some _, _, _ => .error "cannot specify times from more than one source"
  | none, some p, _ =>
    match files.locate start.cwd p with
    | .ok loc => .ok (files.stamp loc)
    | .error e =>
      .error ("failed to get attributes of " ++ quoted p ++ ": " ++ reason e)
  | none, none, some text =>
    if ["now", ""].contains text then .ok files.now
    else at' (Moment.ofText? world.now text) text
  | none, none, none => .ok files.now

/- Create the files that are missing, and set the times of all. -/
def touch (world : World) (start : Start) : Ran :=
  withOptions "touch" 1
    ⟨"acfhm", "drty",
      [("no-create", 'c'), ("date", 'd'), ("reference", 'r'),
        ("no-dereference", 'h'), ("time", 'y')]⟩
    world start fun options =>
      let isShy := options.has 'c' || options.has 'h'
      let place (files : FileTree) (p : Path) :=
        if options.has 'h' then files.locateEntry start.cwd p
        else files.locate start.cwd p
      let setsContent := options.has 'm' || !options.has 'a'
      let stamped (stamp : Stamp) (files : FileTree)
          (loc : Location) : FileTree :=
        files.restamp loc (if setsContent then stamp else files.stamp loc)
      let one (stamp : Stamp) (files : FileTree) (p : Path) :
          Except String FileTree :=
        match place files p with
        | .ok loc => .ok (stamped stamp files loc)
        | .error e =>
          if p == "-" || options.has 'c' && e == .notFound then .ok files
          else if isShy || p.endsWith "/" then
            .error ("setting times of " ++ quoted p ++ ": " ++ reason e)
          else
            orReason ("cannot touch " ++ quoted p)
              ((files.write? start.cwd p id).map fun files =>
                match place files p with
                | .ok loc => stamped stamp files loc
                | .error _ => files)
      match stampAsked world start options with
      | .error why => .error why
      | .ok stamp =>
        if options.words.isEmpty then .error "missing file operand"
        else
          .ok (eachPath "touch" world options.words
            (fun files p => attempt files (one stamp files p)))

/- Make pipes. -/
def makePipes (world : World) (start : Start) : Ran :=
  withOptions "mkfifo" 1 ⟨"Z", "m", [("mode", 'm')]⟩
    world start fun options =>
      needingPaths options
        (eachPath "mkfifo" world options.words fun files p =>
          let complaint := "cannot create fifo " ++ quoted p
          attempt files
            (if (files.locateEntry start.cwd p).toOption.isSome then
              .error (complaint ++ ": File exists")
            else
              orReason complaint (files.putNew? start.cwd p .pipe)))

------------------------------------------------------------
-- From One Place To Another
------------------------------------------------------------

/- Why it is unclear which path goes where. -/
inductive Unclear where
  /- The call is wrong. -/
  | call (complaint : String)
  /- The last word is no directory. -/
  | target (complaint : String)
deriving DecidableEq, Repr

/-
  Which path goes where.  The last word is a directory that
  everything is put into, or the new path of the only other
  word.
-/
def pairs
    (files : FileTree)
    (cwd : Location)
    (options : Options)
    (followsLast : Bool) : Except Unclear (List (Path × Path)) :=
  let into (directory : Path) (p : Path) : Path × Path :=
    (p, Path.join directory
      (if lastName p == Path.parent then Path.current else lastName p))
  let isDirectory (p : Path) : Bool :=
    (files.directory? cwd p).isSome
      && (followsLast
        || (match files.locateEntry cwd p with
          | .ok loc => files.isDirectoryAt loc
          | .error _ => false))
  let obstacle (p : Path) : String :=
    match files.locate cwd p with
    | .ok _ => reason .notDirectory
    | .error e => reason e
  match options.value? 't', options.words with
  | _, [] => .error (.call "missing file operand")
  | some directory, words =>
    if isDirectory directory then .ok (words.map (into directory))
    else
      .error (.target ("target directory " ++ quoted directory ++ ": "
        ++ obstacle directory))
  | none, [p] =>
    .error (.call ("missing destination file operand after " ++ quoted p))
  | none, [p, dest] =>
    if !options.has 'T' && isDirectory dest then .ok [into dest p]
    else .ok [(p, dest)]
  | none, words =>
    let dest := (words.getLast?).getD ""
    if options.has 'T' then
      .error (.call
        ("extra operand " ++ quoted ((words.drop 2).head?.getD "")))
    else if isDirectory dest then .ok (words.dropLast.map (into dest))
    else
      .error (.target ("target " ++ quoted dest ++ ": " ++ obstacle dest))

/- Do something for each path and where it goes. -/
def eachPair
    (program : String)
    (world : World)
    (start : Start)
    (options : Options)
    (followsLast : Bool)
    (action : FileTree → Path × Path → Step) : Except String Ran :=
  match pairs world.files start.cwd options followsLast with
  | .ok chosen => .ok (eachPath program world chosen action)
  | .error (.call complaint) => .error complaint
  | .error (.target complaint) =>
    .ok (Ran.complaining world 1 (program ++ ": " ++ complaint))

/- Whether what is at a path may be replaced. -/
def mayReplace
    (files : FileTree)
    (start : Start)
    (options : Options)
    (dest : Path) : Bool :=
  match options.last "fin" with
  | some 'n' => (files.locateEntry start.cwd dest).toOption.isNone
  | some 'i' =>
    (files.locateEntry start.cwd dest).toOption.isNone
      || isConsent start.stdin
  | _ => true

/- Move one path. -/
def moveOne
    (cwd : Location)
    (files : FileTree)
    (p dest : Path) : Except String FileTree :=
  let failure := "cannot move " ++ quoted p ++ " to " ++ quoted dest ++ ": "
  match orReason ("cannot stat " ++ quoted p) (files.locateEntry cwd p) with
  | .error text => .error text
  | .ok source =>
    let isDirectory := files.isDirectoryAt source
    if endsInDots p then .error (failure ++ "Device or resource busy")
    else
      match files.entrySite cwd (FileTree.withoutSlashes dest) with
      | .error e => .error (failure ++ reason e)
      | .ok site =>
        if dest.endsWith "/" && !isDirectory then
          .error (failure ++ "Not a directory")
        else if site == source
            || (files.locate cwd p).toOption == some site
              && (files.node? site).isSome && !isDirectory then
          .error (quoted p ++ " and " ++ quoted dest
            ++ " are the same file")
        else
          match files.node? site with
          | some .directory =>
            if !isDirectory then
              .error ("cannot overwrite directory " ++ quoted dest
                ++ " with non-directory")
            else if source.isPrefixOf site then
              .error ("cannot move " ++ quoted p
                ++ " to a subdirectory of itself, " ++ quoted dest)
            else if files.isEmptyAt site then .ok (files.move source site)
            else
              .error ("cannot overwrite " ++ quoted dest
                ++ ": Directory not empty")
          | some _ =>
            if isDirectory then
              .error ("cannot overwrite non-directory " ++ quoted dest
                ++ " with directory " ++ quoted p)
            else .ok (files.move source site)
          | none =>
            if source.isPrefixOf site then
              .error ("cannot move " ++ quoted p
                ++ " to a subdirectory of itself, " ++ quoted dest)
            else .ok (files.move source site)

/- Move paths to a path or into a directory. -/
def move (world : World) (start : Start) : Ran :=
  withOptions "mv" 1
    ⟨"finTuvbZ", "tS",
      [("force", 'f'), ("interactive", 'i'), ("no-clobber", 'n'),
        ("target-directory", 't'), ("no-target-directory", 'T'),
        ("update", 'u'), ("verbose", 'v'), ("suffix", 'S'),
        ("strip-trailing-slashes", 'Z')]⟩
    world start fun options =>
      eachPair "mv" world start options true fun files (p, dest) =>
        if mayReplace files start options dest then
          attempt files (moveOne start.cwd files p dest)
        else
          (files, ["not replacing " ++ quoted dest])

------------------------------------------------------------
-- Copying
------------------------------------------------------------

/- Put a copy of a node at a path. -/
def copyNode
    (cwd : Location)
    (isFresh : Bool)
    (files : FileTree)
    (p dest : Path)
    (source : Location)
    (node : Node) : Except String FileTree :=
  let entry := files.locateEntry cwd dest
  let same := quoted p ++ " and " ++ quoted dest ++ " are the same file"
  let overDirectory :=
    "cannot overwrite directory " ++ quoted dest ++ " with non-directory"
  let failure := "cannot create regular file " ++ quoted dest
  let place :=
    match node with
    | .file _ _ => if isFresh then entry else files.locate cwd dest
    | _ => entry
  match place with
  | .ok site =>
    if site == source then .error same
    else
      match node, files.node? site with
      | _, some .directory => .error overDirectory
      | .file content _, some (.file _ executable) =>
        if isFresh then .ok (files.put site node)
        else .ok (files.put site (.file content executable))
      | .file _ _, some .pipe => .ok files
      | _, _ => .ok (files.put site node)
  | .error e =>
    match entry.toOption, e with
    | some _, .tooManyLinks =>
      .error ("failed to access " ++ quoted dest ++ ": " ++ reason e)
    | some _, _ =>
      .error ("not writing through dangling symlink " ++ quoted dest)
    | none, _ =>
      if dest.endsWith "/" then .error (failure ++ ": Not a directory")
      else orReason failure (files.putNew? cwd dest node)

/-
  Copy what lies in a directory into another one.  What is in
  the way of a directory keeps everything below that directory
  from being copied.
-/
def copyBelow
    (isFresh : Bool)
    (source site : Location)
    (p dest : Path)
    (files : FileTree) : Step :=
  let below := (files.nodes.filter
    (fun (loc, _) => source.isPrefixOf loc && !site.isPrefixOf loc)).mergeSort
      (fun a b => decide (a.1.length ≤ b.1.length))
  let isInside := source.isPrefixOf site
  let start : Step := (files,
    if isInside then
      ["cannot copy a directory, " ++ quoted p ++ ", into itself, "
        ++ quoted dest]
    else [])
  below.foldl
    (fun (files, complaints) (loc, node) =>
      let rest := loc.drop source.length
      let target := site ++ rest
      let shown := Text.joinWith "/" (dest :: rest)
      if rest.isEmpty then
        (if files.isDirectoryAt site then files
          else files.put site .directory, complaints)
      else if !files.isDirectoryAt target.dropLast then (files, complaints)
      else
        match node, files.node? target with
        | .directory, none => (files.put target .directory, complaints)
        | .directory, some .directory => (files, complaints)
        | .directory, some _ =>
          (files, complaints
            ++ ["cannot overwrite non-directory " ++ quoted shown
              ++ " with directory "
              ++ quoted (Text.joinWith "/" (p :: rest))])
        | node, _ =>
          let (files, more) := attempt files
            (copyNode [] isFresh files (Text.joinWith "/" (p :: rest))
              target.toPath loc node)
          (files, complaints ++ more))
    start

/- Copy one path. -/
def copyOne
    (cwd : Location)
    (options : Options)
    (files : FileTree)
    (p dest : Path) : Step :=
  let deep := options.has 'r' || options.has 'R' || options.has 'a'
  let follows :=
    match options.last "LPHad" with
    | some 'L' => true
    | some 'H' => true
    | some _ => false
    | none => !deep
  let isFresh := options.has 'D'
  let place :=
    if follows then files.locate cwd p else files.locateEntry cwd p
  match orReason ("cannot stat " ++ quoted p) place with
  | .error text => (files, [text])
  | .ok source =>
    match files.node? source with
    | some .directory =>
      if !deep then
        (files, ["-r not specified; omitting directory " ++ quoted p])
      else
        match orReason ("cannot create directory " ++ quoted dest)
            (files.entrySite cwd (FileTree.withoutSlashes dest)) with
        | .error text => (files, [text])
        | .ok site =>
          match files.node? site with
          | none => copyBelow isFresh source site p dest files
          | some .directory =>
            if site == source then
              (files, ["cannot copy a directory, " ++ quoted p
                ++ ", into itself, " ++ quoted dest])
            else copyBelow isFresh source site p dest files
          | some _ =>
            (files, ["cannot overwrite non-directory " ++ quoted dest
              ++ " with directory " ++ quoted p])
    | some node =>
      attempt files (copyNode cwd isFresh files p dest source node)
    | none => (files, [])

/- Copy paths to a path or into a directory. -/
def copy (world : World) (start : Start) : Ran :=
  withOptions "cp" 1
    ⟨"abdfiHlLnPprRsTuvxDZ", "tS",
      [("archive", 'a'), ("force", 'f'), ("interactive", 'i'),
        ("no-clobber", 'n'), ("dereference", 'L'), ("no-dereference", 'P'),
        ("recursive", 'r'), ("target-directory", 't'),
        ("no-target-directory", 'T'), ("update", 'u'), ("verbose", 'v'),
        ("preserve", 'p'), ("no-preserve", 'Z'), ("reflink", 'Z'),
        ("sparse", 'Z'), ("remove-destination", 'D'), ("suffix", 'S'),
        ("strip-trailing-slashes", 'Z')]⟩
    world start fun options =>
      eachPair "cp" world start options true fun files (p, dest) =>
        if mayReplace files start options dest then
          copyOne start.cwd options files p dest
        else if options.last "fin" == some 'i' then
          (files, ["not replacing " ++ quoted dest])
        else (files, (copyOne start.cwd options files p dest).2)

------------------------------------------------------------
-- Links
------------------------------------------------------------

/- The way from a directory to a place. -/
def wayBetween (directory place : Location) : Path :=
  let shared := (directory.zip place).takeWhile (fun (a, b) => a == b)
  let up := List.replicate (directory.length - shared.length) Path.parent
  let segments := up ++ place.drop shared.length
  if segments.isEmpty then Path.current else Text.joinWith "/" segments

/- Make one link. -/
def linkOne
    (cwd : Location)
    (options : Options)
    (files : FileTree)
    (target dest : Path) : Except String FileTree :=
  let soft := options.has 's'
  let failure := "failed to create "
    ++ (if soft then "symbolic" else "hard") ++ " link " ++ quoted dest
  let source? := (if soft || options.has 'L' then files.locate cwd target
    else files.locateEntry cwd target)
  match soft, orReason ("failed to access " ++ quoted target) source? with
  | false, .error text => .error text
  | _, source? =>
    let source? := source?.toOption
    if !soft && source?.any files.isDirectoryAt then
      .error (target ++ ": hard link not allowed for directory")
    else
      match files.entrySite cwd dest with
      | .error e => .error (failure ++ ": " ++ reason e)
      | .ok site =>
        let node? := files.node? site
        if node?.isSome && !options.has 'f' then
          .error (failure ++ ": File exists")
        else if files.isDirectoryAt site then
          .error (dest ++ ": cannot overwrite directory")
        else if node?.isSome && source? == some site then
          .error (quoted target ++ " and " ++ quoted dest
            ++ " are the same file")
        else if dest.endsWith "/" || soft && target.isEmpty then
          .error (failure ++ " -> " ++ quoted target
            ++ ": No such file or directory")
        else if soft then
          let reached? := source?.or (files.entrySite cwd target).toOption
          let shown := match options.has 'r', reached? with
            | true, some place => wayBetween site.dropLast place
            | _, _ => target
          .ok (files.put site (.link shown))
        else
          match source?.bind files.node? with
          | some node => .ok (files.put site node)
          | none => .ok files

/- Make links. -/
def link (world : World) (start : Start) : Ran :=
  withOptions "ln" 1
    ⟨"sfnibvTrLPdF", "tS",
      [("symbolic", 's'), ("force", 'f'), ("no-dereference", 'n'),
        ("interactive", 'i'), ("no-target-directory", 'T'),
        ("target-directory", 't'), ("relative", 'r'), ("verbose", 'v'),
        ("logical", 'L'), ("physical", 'P'), ("suffix", 'S')]⟩
    world start fun options =>
      let isAlone := options.words.length == 1
        && (options.value? 't').isNone && !options.has 'T'
      let options :=
        if isAlone then { options with words := options.words ++ ["."] }
        else options
      let follows := !options.has 'n'
      eachPair "ln" world start options follows fun files (p, dest) =>
        attempt files (linkOne start.cwd options files p dest)

------------------------------------------------------------
-- Modes
------------------------------------------------------------

/-
  A change of a mode: whether a file can be started afterwards,
  given whether it is a directory and whether it could before.
-/
abbrev ModeChange : Type := Bool → Bool → Bool

/- The change that a permission letter or a group of them makes. -/
def permissions? (letters : List Char) : Option ModeChange :=
  match letters with
  | ['u'] => some fun _ could => could
  | ['g'] => some fun _ could => could
  | ['o'] => some fun _ could => could
  | _ =>
    if letters.all (fun c => "rwxXst".toList.contains c) then
      some fun isDirectory could =>
        letters.contains 'x'
          || letters.contains 'X' && (isDirectory || could)
    else
      none

/- The change by a row of signs, each with letters behind it. -/
def signs? (own : Bool) : Nat → List Char → Option ModeChange
  | 0, _ => none
  | _ + 1, [] => some fun _ could => could
  | fuel + 1, sign :: rest =>
    let isSign : Char → Bool := fun c => c == '+' || c == '-' || c == '='
    if !isSign sign then none
    else do
      let letters := rest.takeWhile (fun c => !isSign c)
      let named ← permissions? letters
      let later ← signs? own fuel (rest.drop letters.length)
      return fun isDirectory could =>
        let changed :=
          if !own then could
          else if sign == '+' then could || named isDirectory could
          else if sign == '-' then could && !named isDirectory could
          else named isDirectory could
        later isDirectory changed

/- The change that one clause of a mode makes. -/
def clause? (text : String) : Option ModeChange :=
  let letters := text.toList
  let who := letters.takeWhile (fun c => "ugoa".toList.contains c)
  let own := who.isEmpty || who.contains 'u' || who.contains 'a'
  let signs := letters.drop who.length
  if signs.isEmpty then none
  else signs? own (signs.length + 1) signs

/- The change that a mode makes. -/
def mode? (text : String) : Option ModeChange :=
  let digits := text.toList
  if !digits.isEmpty && digits.all (fun c => '0' ≤ c && c ≤ '7') then
    match Numeral.natural? 8 digits with
    | some n =>
      if n < 4096 then some fun _ _ => n / 64 % 2 == 1 else none
    | none => none
  else
    (text.splitOn ",").foldl
      (fun change? part => do
        let change ← change?
        let next ← clause? part
        return fun isDirectory could =>
          next isDirectory (change isDirectory could))
      (some fun _ could => could)

/- The words of a call that changes modes, sorted out. -/
structure ModeCall where
  deep : Bool
  quiet : Bool
  /- Modes that look like options. -/
  modes : List String
  words : List String

/- Sort out the words of a call that changes modes. -/
def ModeCall.read : List String → Except String ModeCall
  | [] => .ok ⟨false, false, [], []⟩
  | "--" :: rest => .ok ⟨false, false, [], rest⟩
  | word :: rest => do
    let call ← ModeCall.read rest
    match word.toList with
    | ['-'] => return { call with words := word :: call.words }
    | '-' :: c :: letters =>
      if ["--recursive", "-R"].contains word then
        return { call with deep := true }
      else if ["--silent", "--quiet", "-f"].contains word then
        return { call with quiet := true }
      else if ["--verbose", "--changes", "-v", "-c"].contains word then
        return call
      else if "rwxXstugoa,+=01234567".toList.contains c then
        return { call with modes := word :: call.modes }
      else if (c :: letters).all (fun c => "Rfvc".toList.contains c) then
        return { call with
          deep := call.deep || (c :: letters).contains 'R'
          quiet := call.quiet || (c :: letters).contains 'f' }
      else
        throw ("invalid option -- '" ++ String.singleton c ++ "'")
    | _ => return { call with words := word :: call.words }

/- Change the mode of what is at a place. -/
def setModeAt
    (change : ModeChange)
    (files : FileTree)
    (loc : Location) : FileTree :=
  match files.node? loc with
  | some (.file content could) =>
    files.put loc (.file content (change false could))
  | _ => files

/- Change the modes of one path, and of all below it if asked to. -/
def setModes
    (cwd : Location)
    (deep : Bool)
    (change : ModeChange)
    (files : FileTree)
    (p : Path) : Except String FileTree :=
  match files.locate cwd p with
  | .error e =>
    if e == .notFound && (files.locateEntry cwd p).toOption.isSome then
      .error ("cannot operate on dangling symlink " ++ quoted p)
    else
      .error ("cannot access " ++ quoted p ++ ": " ++ reason e)
  | .ok loc =>
    if deep then
      .ok ((files.nodes.filter
        (fun (below, _) => loc.isPrefixOf below)).foldl
          (fun files (below, _) => setModeAt change files below) files)
    else
      .ok (setModeAt change files loc)

/- Change the modes of files. -/
def changeModes (world : World) (start : Start) : Ran :=
  let usage (complaint : String) : Ran :=
    Ran.complaining world 1
      ("chmod: " ++ complaint
        ++ "\nTry 'chmod --help' for more information.")
  match ModeCall.read start.args with
  | .error complaint => usage complaint
  | .ok call =>
    let (mode?, paths) :=
      match call.modes, call.words with
      | [], mode :: paths => (some mode, paths)
      | [], [] => (none, [])
      | _, [] => (none, [])
      | modes, paths => (some (Text.joinWith "," modes), paths)
    match mode?, paths with
    | none, _ => usage "missing operand"
    | some mode, [] => usage ("missing operand after " ++ quoted mode)
    | some mode, paths =>
      match Handling.mode? mode with
      | none => usage ("invalid mode: " ++ quoted mode)
      | some change =>
        let ran := eachPath "chmod" world paths fun files p =>
          attempt files (setModes start.cwd call.deep change files p)
        if call.quiet then { ran with printed := [] } else ran

------------------------------------------------------------
-- All Of Them
------------------------------------------------------------

/- The programs, by their names. -/
def table : List (String × (World → Start → Ran)) :=
  [ ("rm", remove),
    ("mkdir", makeDirectories),
    ("rmdir", removeEmpty),
    ("touch", touch),
    ("mkfifo", makePipes),
    ("mv", move),
    ("cp", copy),
    ("ln", link),
    ("chmod", changeModes) ]

end Handling

end Sandbox

end TreeLint
