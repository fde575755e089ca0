import TreeLint.Repository.Layers
import TreeLint.Sandbox.World

/-
  The settings of version control.

  Key definitions include:
    * `Versions.Settings.parse?`
    * `Versions.Reader`
    * `Versions.Reader.all`
    * `Versions.Failure`

  Settings are read character by character: headers of
  sections, names, and values that may go on in the next line.
  They come from files, from the environment and from the
  command line, and what comes later is stronger.
-/

------------------------------------------------------------
-- Failures
------------------------------------------------------------

namespace TreeLint

namespace Sandbox

namespace Versions

/- Why a command gives up. -/
structure Failure where
  code : Int
  text : String

namespace Failure

/- A failure that leaves no choice. -/
def fatal (text : String) : Failure :=
  ⟨128, "fatal: " ++ text⟩

/- A failure to do what was asked for. -/
def error (text : String) : Failure :=
  ⟨1, "error: " ++ text⟩

/- A command that was called in the wrong way. -/
def usage (text : String) : Failure :=
  ⟨129, text⟩

/- What a program with this failure leaves behind. -/
def ran (world : World) (failure : Failure) : Ran :=
  Ran.complaining world failure.code failure.text

end Failure

/- The outcome of a part of a command. -/
abbrev Attempt (α : Type) := Except Failure α

/- What a program leaves behind that may have failed. -/
def finish (world : World) : Attempt Ran → Ran
  | .ok ran => ran
  | .error failure => failure.ran world

------------------------------------------------------------
-- Reading Characters
------------------------------------------------------------

namespace Settings

/- White space between the words of a setting. -/
def isSpace (c : Char) : Bool :=
  c == ' ' || c == '\t' || c == '\n' || c == '\r'

/- The characters of names. -/
def isNameChar (c : Char) : Bool :=
  c.isAlphanum || c == '-'

/- A text with plain line feeds at the ends of its lines. -/
def plainLines : List Char → List Char
  | '\r' :: '\n' :: rest => '\n' :: plainLines rest
  | c :: rest => c :: plainLines rest
  | [] => []

/- The text in quotes on a line, and what follows it. -/
def quoted? : List Char → Option (List Char × List Char)
  | [] => none
  | '"' :: rest => some ([], rest)
  | '\n' :: _ => none
  | '\\' :: '\n' :: _ => none
  | '\\' :: c :: rest =>
    (quoted? rest).map fun (inner, behind) => (c :: inner, behind)
  | c :: rest =>
    (quoted? rest).map fun (inner, behind) => (c :: inner, behind)

/- The name of a section, and what follows its header. -/
def header? (text : List Char) : Option (String × List Char) :=
  let name := text.takeWhile (fun c => isNameChar c || c == '.')
  let front := (String.ofList name).toLower
  match text.drop name.length with
  | ']' :: rest => if front.isEmpty then none else some (front, rest)
  | c :: rest =>
    if isSpace c && c != '\n' then
      let rest := rest.dropWhile (fun c => isSpace c && c != '\n')
      match rest with
      | '"' :: rest =>
        match quoted? rest with
        | some (inner, ']' :: behind) =>
          some (front ++ "." ++ String.ofList inner, behind)
        | _ => none
      | _ => none
    else
      none
  | [] => none

/-
  A value and what follows its line.  `spaces` counts the
  white space that has been passed since the last character.
-/
def value? (isQuoted : Bool) (spaces : Nat) (isEmpty : Bool) :
    List Char → Option (List Char × List Char)
  | [] => if isQuoted then none else some ([], [])
  | '\n' :: rest => if isQuoted then none else some ([], rest)
  | '\\' :: '\n' :: rest => value? isQuoted 0 isEmpty rest |>.map
      fun (more, behind) => (List.replicate spaces ' ' ++ more, behind)
  | ['\\'] => some (List.replicate spaces ' ', [])
  | '\\' :: c :: rest =>
    match Settings.unescaped? c, value? isQuoted 0 false rest with
    | some d, some (more, behind) =>
      some (List.replicate spaces ' ' ++ d :: more, behind)
    | _, _ => none
  | c :: rest =>
    if isSpace c && !isQuoted then
      value? isQuoted (if isEmpty then 0 else spaces + 1) isEmpty rest
    else if (c == ';' || c == '#') && !isQuoted then
      some ([], rest.dropWhile (· != '\n') |>.drop 1)
    else if c == '"' then
      (value? (!isQuoted) 0 isEmpty rest).map fun (more, behind) =>
        (List.replicate spaces ' ' ++ more, behind)
    else
      (value? isQuoted 0 false rest).map fun (more, behind) =>
        (List.replicate spaces ' ' ++ c :: more, behind)

/- The settings of characters in a section that is open. -/
def parseFrom? :
    Nat → Option String → List Char → Option (List Setting)
  | 0, _, _ => none
  | _ + 1, _, [] => some []
  | fuel + 1, section', c :: rest =>
    if isSpace c then
      parseFrom? fuel section' rest
    else if c == '#' || c == ';' then
      parseFrom? fuel section' (rest.dropWhile (· != '\n'))
    else if c == '[' then
      match header? rest with
      | some (opened, behind) => parseFrom? fuel (some opened) behind
      | none => none
    else if !c.isAlpha then
      none
    else
      let key := c :: rest.takeWhile isNameChar
      let front := match section' with
        | some opened => opened ++ "."
        | none => ""
      let name := front ++ (String.ofList key).toLower
      let behind := (rest.drop (key.length - 1)).dropWhile
        (fun c => c == ' ' || c == '\t')
      match behind with
      | [] => some [⟨name, none⟩]
      | '\n' :: rest =>
        (parseFrom? fuel section' rest).map (⟨name, none⟩ :: ·)
      | '=' :: rest =>
        match value? false 0 true rest with
        | some (value, rest) =>
          (parseFrom? fuel section' rest).map
            (⟨name, some (String.ofList value)⟩ :: ·)
        | none => none
      | _ => none

/- The settings of a text, in order; `none` if it is malformed. -/
def parse? (text : String) : Option (List Setting) :=
  let chars := match text.toList with
    | '\uFEFF' :: rest => rest
    | chars => chars
  parseFrom? (chars.length + 1) none (plainLines chars)

end Settings

------------------------------------------------------------
-- Sources
------------------------------------------------------------

/- What is known of the remote repositories when settings are read. -/
inductive Remotes where
  /- They are still to be found out. -/
  | unknown
  | known (urls : List String)

/- What settings are read with. -/
structure Reader where
  files : FileTree
  cwd : Location
  env : List (String × String)
  /- The administration directory, if there is one. -/
  admin : Option Path
  /- The directory that holds the history. -/
  common : Option Path
  remotes : Remotes

namespace Reader

/- The value of a variable of the environment. -/
def valueOf? (r : Reader) (name : String) : Option String :=
  r.env.lookup name

/- The place of what follows a tilde, if the user behind it exists. -/
def expanded? (r : Reader) (p : Path) : Option Path :=
  let behind (front : String) : Path :=
    String.ofList (p.toList.drop front.length)
  if p == "~" || p.startsWith "~/" then
    (r.valueOf? "HOME").map (· ++ behind "~")
  else if p == "~root" || p.startsWith "~root/" then
    some ("/root" ++ behind "~root")
  else if p.startsWith "~" then none
  else some p

------------------------------------------------------------
-- Conditions
------------------------------------------------------------

/- A pattern that ends in a slash stands for all below it. -/
def completed (pattern : String) : String :=
  if pattern.endsWith "/" then pattern ++ "**" else pattern

/- The path of the directory of a file, links resolved. -/
def realDirectory (r : Reader) (file : Path) : Path :=
  match r.files.locate r.cwd file with
  | .ok loc => Location.toPath loc.dropLast
  | .error _ => Repository.directoryOf file

/- A path in a home directory, links resolved as far as they lead. -/
def realHome (r : Reader) (p : Path) : Path :=
  match r.files.locate r.cwd p with
  | .ok loc => if p.endsWith "/" then loc.toPath ++ "/" else loc.toPath
  | .error _ => p

/- Whether the administration directory lies where a pattern says. -/
def liesIn (r : Reader) (foldsCase : Bool) (file : Path)
    (pattern : String) : Bool :=
  let pattern := if pattern.startsWith "~" then
      ((r.expanded? pattern).map r.realHome).getD pattern
    else pattern
  match r.admin with
  | none => false
  | some admin =>
    let w : Wildcard := ⟨true, foldsCase⟩
    if pattern.startsWith "./" then
      let front := r.realDirectory file ++ "/"
      let rest := String.ofList (pattern.toList.drop 2)
      let ahead := RawByte.encode front
      let text := RawByte.encode admin
      w.sameBytes ahead (text.take ahead.length)
        && w.fitsBytes (RawByte.encode (completed rest))
          (text.drop ahead.length)
    else if Path.isAbsolute pattern then
      w.fits (completed pattern) admin
    else
      w.fits (completed ("**/" ++ pattern)) admin

/- The administration directory as one whose head is asked for. -/
def asRepository? (r : Reader) : Option Repository.Reader :=
  r.admin.map fun admin => ⟨r.files, ⟨r.cwd, r.env⟩, admin⟩

/- What conditions on the addresses of remote repositories start with. -/
def remoteStart : String := "hasconfig:remote.*.url:"

/- The condition under which a setting has a file read, if any. -/
def condition? (setting : Setting) : Option String :=
  Repository.Reader.between? "includeif." ".path" setting.name

/- Whether a setting has a file read if a remote repository is known. -/
def asksForRemote (setting : Setting) : Bool :=
  (condition? setting).any (fun c => c.startsWith remoteStart)

/- Whether a condition for reading a file is met. -/
def holds (r : Reader) (file : Path) (condition : String) : Bool :=
  let behind? (front : String) : Option String :=
    Repository.Reader.between? front "" condition
  match behind? "gitdir:", behind? "gitdir/i:", behind? "onbranch:",
      behind? remoteStart with
  | some pattern, _, _, _ => r.liesIn false file pattern
  | _, some pattern, _, _ => r.liesIn true file pattern
  | _, _, some pattern, _ =>
    r.asRepository?.any (fun inner => inner.isOnBranch pattern)
  | _, _, _, some pattern =>
    match r.remotes with
    | .unknown => true
    | .known urls =>
      urls.any (fun url => Wildcard.fits ⟨true, false⟩ pattern url)
  | _, _, _, _ => false

------------------------------------------------------------
-- Files Of Settings
------------------------------------------------------------

/- How deep files of settings may include each other. -/
def depthLimit : Nat := 11

/- The file that a setting says is to be read in its place. -/
def inclusion? (r : Reader) (file : Path) (setting : Setting) :
    Attempt (Option Path) :=
  let isInclusion :=
    setting.name == "include.path"
      || (condition? setting).any (r.holds file)
  match isInclusion, setting.value with
  | false, _ => .ok none
  | true, none =>
    .error (.fatal ("missing value for '" ++ setting.name ++ "'"))
  | true, some value =>
    match r.expanded? value with
    | some p => .ok (some (Path.join (Repository.directoryOf file) p))
    | none =>
      .error (.fatal ("could not expand include path '" ++ value ++ "'"))

/- The address of a remote repository, if a setting is for one. -/
def remoteUrl? (setting : Setting) : Option String :=
  match Repository.Reader.between? "remote." ".url" setting.name with
  | some _ => setting.value
  | none => none

/- Check that a file that hangs on remote repositories names none. -/
def checkRemotes (setting : Setting) (found : List Setting) :
    Attempt Unit :=
  if asksForRemote setting && found.any (fun s => (remoteUrl? s).isSome) then
    .error (.fatal ("remote URLs cannot be configured in file directly or "
      ++ "indirectly included by includeIf.hasconfig:remote.*.url"))
  else
    .ok ()

/- The content of a file; one that is not there has none. -/
def content? (r : Reader) (file : Path) : Attempt (Option (List UInt8)) :=
  let missing (why : FileTree.PathError) : Attempt (Option (List UInt8)) :=
    .error (.fatal ("unable to access '" ++ file ++ "': " ++ reason why))
  match r.files.locate r.cwd file with
  | .error .notFound => .ok none
  | .error .notDirectory => .ok none
  | .error why => missing why
  | .ok loc =>
    match r.files.node? loc with
    | some (.file content _) => .ok (some content)
    | some .directory =>
      .error (.fatal ("warning: unable to access '" ++ file
        ++ "': Is a directory"))
    | _ => .ok none

/- The settings of a file, with the settings of those it includes. -/
def settingsIn (r : Reader) : Nat → Path → Attempt (List Setting)
  | 0, file =>
    .error (.fatal ("exceeded maximum include depth (10) while including\n\t"
      ++ file))
  | depth + 1, file =>
    match r.content? file with
    | .error failure => .error failure
    | .ok none => .ok []
    | .ok (some content) =>
      match Settings.parse? (RawByte.decode content) with
      | none => .error (.fatal ("bad config line 1 in file " ++ file))
      | some settings => do
        let lists ← settings.mapM fun setting => do
          match ← r.inclusion? file setting with
          | none => return [setting]
          | some path =>
            let found ← settingsIn r depth path
            checkRemotes setting found
            return setting :: found
        return lists.flatten

/- The files of the user. -/
def userFiles (r : Reader) : List Path :=
  match r.valueOf? "GIT_CONFIG_GLOBAL" with
  | some file => [file]
  | none =>
    let home? := r.valueOf? "HOME"
    let shared := match r.valueOf? "XDG_CONFIG_HOME" with
      | some "" => home?.map (· ++ "/.config")
      | some directory => some directory
      | none => home?.map (· ++ "/.config")
    (shared.map (· ++ "/git/config")).toList
      ++ (home?.map (· ++ "/.gitconfig")).toList

/- The files of everybody. -/
def systemFiles (r : Reader) : List Path :=
  let isOff := match r.valueOf? "GIT_CONFIG_NOSYSTEM" with
    | some value => (Settings.boolean? (some value)).getD true
    | none => false
  match isOff, r.valueOf? "GIT_CONFIG_SYSTEM" with
  | true, _ => []
  | false, some file => [file]
  | false, none => ["/etc/gitconfig"]

/- The file of a repository. -/
def commonFile? (r : Reader) : Option Path :=
  r.common.map (· ++ "/config")

/- Whether a character can be in the name of a setting. -/
def isKeyCharacter (c : Char) : Bool :=
  c.isAlphanum || c == '-'

/- The complaint about what is not a setting. -/
def unclear {α : Type} (why : String) : Attempt α :=
  .error ⟨128, "error: " ++ why
    ++ "\nfatal: unable to parse command-line config"⟩

/- A setting with a name as it is written. -/
def pair (name : String) (value : Option String) : Attempt Setting :=
  match (Text.splitAt '.' name).reverse with
  | last :: next :: above =>
    let parts := (next :: above).reverse
    let first := parts.head?.getD ""
    let isGoodLast := last.toList.all isKeyCharacter
      && (last.toList.head?).any Char.isAlpha
    if Text.joinWith "." parts == "" then
      unclear ("key does not contain a section: " ++ name)
    else if last.isEmpty then
      unclear ("key does not contain variable name: " ++ name)
    else if !isGoodLast || !first.toList.all isKeyCharacter
        || name.contains '\n' then
      unclear ("invalid key: " ++ name)
    else
      let front := Text.joinWith "." (first.toLower :: parts.drop 1)
      .ok ⟨front ++ "." ++ last.toLower, value⟩
  | _ => unclear ("key does not contain a section: " ++ name)

/- A setting as it is given on the command line. -/
def ofArgument (argument : String) : Attempt Setting :=
  let name := argument.toList.takeWhile (· != '=')
  let value := match argument.toList.drop name.length with
    | [] => none
    | _ :: value => some (String.ofList value)
  let text := String.ofList
    ((name.dropWhile Settings.isSpace).reverse.dropWhile
      Settings.isSpace).reverse
  if text.isEmpty then
    unclear ("bogus config parameter: " ++ argument)
  else pair text value

/-
  The text up to the quote that closes it, with what is behind.
  A quote inside stands outside of the quotes with a stroke in
  front.
-/
def quotedText? : List Char → Option (List Char × List Char)
  | '\'' :: '\\' :: '\'' :: '\'' :: rest =>
    (quotedText? rest).map fun (text, behind) => ('\'' :: text, behind)
  | '\'' :: '\\' :: '!' :: '\'' :: rest =>
    (quotedText? rest).map fun (text, behind) => ('!' :: text, behind)
  | '\'' :: rest => some ([], rest)
  | c :: rest =>
    (quotedText? rest).map fun (text, behind) => (c :: text, behind)
  | [] => none

/- A text between quotes. -/
def quoted (text : List Char) : List Char :=
  '\'' :: (text.flatMap fun c =>
    if c == '\'' || c == '!' then ['\'', '\\', c, '\''] else [c]) ++ ['\'']

/- A setting from the command line in the notation of such lists. -/
def listedSetting (argument : String) : String :=
  let name := argument.toList.takeWhile (· != '=')
  String.ofList (quoted name ++ '='
    :: match argument.toList.drop name.length with
      | [] => []
      | _ :: value => quoted value)

/- The settings in a list of quoted texts. -/
def listed : Nat → List Char → Attempt (List Setting)
  | _, [] => .ok []
  | 0, _ => unclear "bogus format in GIT_CONFIG_PARAMETERS"
  | fuel + 1, '\'' :: rest =>
    let bogus : Attempt (List Setting) :=
      unclear "bogus format in GIT_CONFIG_PARAMETERS"
    let isEnd (behind : List Char) : Bool :=
      (behind.head?).all Settings.isSpace
    let next (setting : Setting) (behind : List Char) :
        Attempt (List Setting) := do
      return setting
        :: (← listed fuel (behind.dropWhile Settings.isSpace))
    match quotedText? rest with
    | none => bogus
    | some (key, '=' :: '\'' :: rest) =>
      match quotedText? rest with
      | none => bogus
      | some (value, behind) =>
        if isEnd behind then do
          let setting ←
            pair (String.ofList key) (some (String.ofList value))
          next setting behind
        else bogus
    | some (key, '=' :: behind) =>
      if isEnd behind then do
        next (← pair (String.ofList key) none) behind
      else bogus
    | some (key, behind) =>
      if isEnd behind then do
        next (← ofArgument (String.ofList key)) behind
      else bogus
  | _ + 1, _ => unclear "bogus format in GIT_CONFIG_PARAMETERS"

/- The settings that the environment counts. -/
def counted (r : Reader) : Attempt (List Setting) :=
  match r.valueOf? "GIT_CONFIG_COUNT" with
  | none => .ok []
  | some "" => .ok []
  | some text =>
    let digits := match text.toList.dropWhile Settings.isSpace with
      | '+' :: digits => digits
      | digits => digits
    match Numeral.natural? 10 digits with
    | none => unclear "bogus count in GIT_CONFIG_COUNT"
    | some count =>
      if 1000 < count then unclear "too many entries" else
      (List.range count).mapM fun n => do
        match r.valueOf? ("GIT_CONFIG_KEY_" ++ toString n),
            r.valueOf? ("GIT_CONFIG_VALUE_" ++ toString n) with
        | some key, some value =>
          pair key (some value)
        | _, _ => unclear ("missing config key or value " ++ toString n)

/- Check a variable of the environment that is a yes or a no. -/
def checkFlag (r : Reader) (name : String) : Attempt Unit :=
  match r.valueOf? name with
  | none => .ok ()
  | some value =>
    match Settings.boolean? (some value) with
    | some _ => .ok ()
    | none =>
      .error (.fatal ("bad boolean environment value '" ++ value
        ++ "' for '" ++ name ++ "'"))

/- Settings without a file, with those of the files that they include. -/
def withIncluded (r : Reader) (settings : List Setting) :
    Attempt (List Setting) := do
  let lists ← settings.mapM fun setting => do
    match ← r.inclusion? "" setting with
    | none => return [setting]
    | some path =>
      if !path.isAbsolute then
        unclear "relative config includes must come from files"
      return setting :: (← r.settingsIn depthLimit path)
  return lists.flatten

/- Settings that come from one place. -/
structure Source where
  /- For whom the settings hold. -/
  scope : String
  /- Where the settings stand. -/
  place : String
  settings : List Setting

/- The settings of a file and of those that it includes. -/
def sourceIn (r : Reader) (scope : String) (file : Path) :
    Attempt Source := do
  return ⟨scope, "file:" ++ file, ← r.settingsIn depthLimit file⟩

/- The places of settings for what is known of remote repositories. -/
def sources (r : Reader) : Attempt (List Source) := do
  r.checkFlag "GIT_CONFIG_NOSYSTEM"
  let systems ← r.systemFiles.mapM (r.sourceIn "system")
  let users ← r.userFiles.mapM (r.sourceIn "global")
  let own ← (r.commonFile?.toList).mapM (r.sourceIn "local")
  let ownSettings := own.flatMap Source.settings
  let hasTrees :=
    match Settings.last? ownSettings "extensions.worktreeconfig" with
    | some setting => Settings.boolean? setting.value == some true
    | none => false
  let tree ← (if hasTrees then
      (r.admin.map (· ++ "/config.worktree")).toList
    else []).mapM (r.sourceIn "worktree")
  let counted ← r.counted
  let parameters := ((r.valueOf? "GIT_CONFIG_PARAMETERS").getD "").toList
  let counted := counted ++ (← listed (parameters.length + 1) parameters)
  let given ← r.withIncluded counted
  return systems ++ users ++ own ++ tree
    ++ [⟨"command", "command line:", given⟩]

/- The settings of all sources for what is known of remote repositories. -/
def allFor (r : Reader) : Attempt (List Setting) :=
  r.sources.map (List.flatMap Source.settings)

/-
  The reader that knows the remote repositories of all files,
  also of those that are read for the sake of one of them.
-/
def knowing (r : Reader) (settings : List Setting) : Reader :=
  { r with remotes := .known (settings.filterMap remoteUrl?) }

/- The settings of all sources, the strongest last. -/
def all (r : Reader) : Attempt (List Setting) := do
  let settings ← r.allFor
  if settings.any asksForRemote then (r.knowing settings).allFor
  else return settings

end Reader

end Versions

end Sandbox

end TreeLint
