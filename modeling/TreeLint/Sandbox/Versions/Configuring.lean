import TreeLint.Sandbox.Versions.Addresses
import TreeLint.Sandbox.Versions.Arguments
import TreeLint.Sandbox.Versions.Colors
import TreeLint.Sandbox.Versions.Desk
import TreeLint.Sandbox.Versions.Inscribing

/-
  Reading and writing single settings.

  Key definitions include:
    * `Configuring.Form`
    * `Configuring.Place`
    * `Configuring.lookUp`
    * `Configuring.run`

  Settings are looked up in all places where they may stand, or
  in one of them.  They are written into one file, which is the
  file of the repository if nothing else is asked for.
-/

------------------------------------------------------------
-- The Command
------------------------------------------------------------

namespace TreeLint

namespace Sandbox

namespace Versions

namespace Configuring

/- The options of the command. -/
def rules : List String :=
  [ "global", "system", "local", "worktree", "f|file=", "blob=", "get",
    "get-all", "get-regexp", "get-urlmatch", "replace-all", "add", "unset",
    "unset-all", "rename-section", "remove-section", "l|list", "fixed-value",
    "e|edit", "get-color", "get-colorbool", "t|type=", "bool", "int",
    "bool-or-int", "bool-or-str", "path", "expiry-date", "z|null",
    "name-only", "includes", "show-origin", "show-scope", "default=" ]

/- The options that say what is to be done. -/
def actions : List String :=
  [ "get", "get-all", "get-regexp", "get-urlmatch", "replace-all", "add",
    "unset", "unset-all", "rename-section", "remove-section", "list",
    "edit", "get-color", "get-colorbool" ]

/- The complaint about a call. -/
def misused {α : Type} (text : String) : Attempt α :=
  .error (.usage ("error: " ++ text))

/- Check how many words there are. -/
def checkCount (words : List String) (low high : Nat) : Attempt Unit :=
  if low ≤ words.length && words.length ≤ high then .ok ()
  else
    misused ("wrong number of arguments, should be "
      ++ (if low == high then toString low
        else "from " ++ toString low ++ " to " ++ toString high))

------------------------------------------------------------
-- Forms Of Values
------------------------------------------------------------

/- The form in which a value is wanted. -/
inductive Form where
  | plain
  | truth
  | number
  | truthOrNumber
  | truthOrText
  | path
  | date
  | color
deriving DecidableEq, Repr

namespace Form

/- The names of the forms. -/
def names : List (String × Form) :=
  [ ("bool", .truth), ("int", .number), ("bool-or-int", .truthOrNumber),
    ("bool-or-str", .truthOrText), ("path", .path), ("expiry-date", .date),
    ("color", .color) ]

/- Take an option into account. -/
def withOption (form : Form) (given : Given) : Attempt Form :=
  let asked? : Option (Attempt Form) :=
    if given.name == "type" then
      match given.isNegated, given.value? with
      | false, some word =>
        match names.lookup word with
        | some form => some (.ok form)
        | none =>
          some (.error (.fatal ("unrecognized --type argument, " ++ word)))
      | _, _ => some (.ok .plain)
    else
      (names.lookup given.name).map fun form =>
        if given.isNegated then .ok .plain else .ok form
  match asked? with
  | none => .ok form
  | some asked => do
    let new ← asked
    if form != .plain && new != .plain && new != form then
      misused "only one type at a time"
    else .ok new

/- The form that options ask for. -/
def of (arguments : Arguments) : Attempt Form :=
  arguments.options.foldlM withOption .plain

end Form

/- A truth value in words. -/
def truth (b : Bool) : String := if b then "true" else "false"

/- A number that may be larger than those that are counted with. -/
def integer? (value : String) : Option Int :=
  let text := TreeLint.Settings.trimStart value.toList
  let (sign, text) : Int × List Char := match text with
    | '-' :: rest => (-1, rest)
    | '+' :: rest => (1, rest)
    | text => (1, text)
  let (base, digits, rest) := Settings.digits text
  match Numeral.natural? base digits, Settings.factor? rest with
  | some n, some factor =>
    let value := sign * n * factor
    if -9223372036854775808 ≤ value && value ≤ 9223372036854775807 then
      some value
    else none
  | _, _ => none

/- The complaint about a value that is no number. -/
def notNumber {α : Type} (name value : String) : Attempt α :=
  .error (.fatal ("bad numeric config value '" ++ value ++ "' for '" ++ name
    ++ "': invalid unit"))

/- The truth value that a word stands for, if it is no number. -/
def truthWord? : Option String → Option Bool
  | none => some true
  | some value =>
    let word := value.toLower
    if ["true", "yes", "on"].contains word then some true
    else if ["false", "no", "off", ""].contains word then some false
    else none

/- A value in a form that it may not have. -/
def formed (form : Form) (env : List (String × String)) (name : String)
    (value? : Option String) : Attempt String :=
  let value := value?.getD ""
  match form with
  | .plain => .ok value
  | .truth =>
    match Settings.boolean? value? with
    | some b => .ok (truth b)
    | none =>
      .error (.fatal ("bad boolean config value '" ++ value ++ "' for '"
        ++ name ++ "'"))
  | .number =>
    match integer? value with
    | some n => .ok (toString n)
    | none => notNumber name value
  | .truthOrNumber =>
    match truthWord? value?, integer? value with
    | some b, _ => .ok (truth b)
    | none, some n => .ok (toString n)
    | none, none => notNumber name value
  | .truthOrText =>
    match Settings.boolean? value? with
    | some b => .ok (truth b)
    | none => .ok value
  | .path =>
    match value.toList, env.lookup "HOME" with
    | ['~'], some home => .ok home
    | '~' :: '/' :: rest, some home => .ok (home ++ "/" ++ String.ofList rest)
    | '~' :: _, _ =>
      .error (.fatal ("failed to expand user dir in: '" ++ value ++ "'"))
    | _, _ => .ok value
  | .date =>
    if ["never", "false"].contains value then .ok "0"
    else if ["all", "now"].contains value then .ok "18446744073709551615"
    else .ok value
  | .color =>
    match Paint.parse? value with
    | some paint => .ok paint.sequence
    | none => .error (.fatal ("invalid color value: " ++ value))

/- A value as it is to be written. -/
def normal (form : Form) (name value : String) : Attempt String :=
  match form with
  | .path => .ok value
  | .date => .ok value
  | .color =>
    match Paint.parse? value with
    | some _ => .ok value
    | none => .error (.fatal ("cannot parse color '" ++ value ++ "'"))
  | form => formed form [] name (some value)

------------------------------------------------------------
-- Where Settings Are
------------------------------------------------------------

/- What the command works with. -/
structure Place where
  files : FileTree
  call : Call
  /- The directory that places are told from. -/
  base : Path
  /- The file of the repository, if there is one. -/
  own? : Option Path
  /- The file of the work tree, if there is one. -/
  tree? : Option Path
  /- There are several work trees that share their settings. -/
  isShared : Bool
  reader : Reader
  /- The content of an object of the repository. -/
  object? : String → Option (List UInt8)

/- Where settings are looked for. -/
inductive Scope where
  | all
  | file (scope : String) (p : Path)
  | text (scope place : String) (content : List UInt8)

/- The file of the user. -/
def userFile (place : Place) : Attempt Path :=
  let valueOf? (name : String) : Option String :=
    List.lookup name place.call.env
  match valueOf? "GIT_CONFIG_GLOBAL", valueOf? "HOME" with
  | some file, _ => .ok file
  | none, some home =>
    let plain := home ++ "/.gitconfig"
    let shared := match valueOf? "XDG_CONFIG_HOME" with
      | some "" => home ++ "/.config/git/config"
      | some directory => directory ++ "/git/config"
      | none => home ++ "/.config/git/config"
    let isShared := !place.files.pathExists place.call.cwd plain
      && place.files.isFile place.call.cwd shared
    .ok (if isShared then shared else plain)
  | none, none => .error (.fatal "$HOME not set")

/- The place that options ask for. -/
def scopeFor (place : Place) (arguments : Arguments) : Attempt Scope := do
  let asked := ["global", "system", "local", "worktree", "file",
    "blob"].filter arguments.has
  if 1 < asked.length then misused "only one config file at a time"
  let outside (option : String) : Attempt Scope :=
    .error (.fatal ("--" ++ option
      ++ " can only be used inside a git repository"))
  match asked.head?, place.own? with
  | some "global", _ => return .file "global" (← userFile place)
  | some "system", _ =>
    return .file "system"
      ((place.call.env.lookup "GIT_CONFIG_SYSTEM").getD "/etc/gitconfig")
  | some "local", some own => return .file "local" own
  | some "worktree", some own =>
    match place.tree? with
    | some tree => return .file "worktree" tree
    | none =>
      if place.isShared then
        .error (.fatal ("--worktree cannot be used with multiple working "
          ++ "trees unless the config\nextension worktreeConfig is enabled."))
      else return .file "local" own
  | some "file", _ =>
    let p := (arguments.value? "file").getD ""
    return if p == "-" then
        .text "command" "standard input:" place.call.stdin
      else .file "command" p
  | some "blob", some _ =>
    let name := (arguments.value? "blob").getD ""
    match place.object? name with
    | some content => return .text "command" ("blob:" ++ name) content
    | none =>
      .error (.fatal ("unable to resolve config blob '" ++ name ++ "'"))
  | some option, none => outside option
  | _, _ => return .all

/- The complaint about a text that holds no settings. -/
def malformed {α : Type} (file : Path) : Attempt α :=
  .error (.fatal ("bad config line 1 in file " ++ file))

/- A place as it is told. -/
def shownPlace (place : Place) (text : String) : String :=
  let front := "file:" ++ place.base ++ "/"
  if text.startsWith front then "file:" ++ without front text else text

/- The settings that are looked for. -/
def sourcesIn (place : Place) (arguments : Arguments) (found : List Setting)
    (scope : Scope) : Attempt (List Reader.Source) :=
  match scope with
  | .all =>
    if arguments.hasAny ["show-origin", "show-scope"] then
      place.reader.sources
    else .ok [⟨"", "", found⟩]
  | .file scope p =>
    if arguments.has "includes" then do
      return [← place.reader.sourceIn scope p]
    else
      match place.files.read? place.call.cwd p with
      | none => .ok []
      | some content =>
        match Settings.parse? (RawByte.decode content) with
        | some settings => .ok [⟨scope, "file:" ++ p, settings⟩]
        | none => malformed p
  | .text scope origin content =>
    match Settings.parse? (RawByte.decode content) with
    | some settings => .ok [⟨scope, origin, settings⟩]
    | none => malformed origin

------------------------------------------------------------
-- Looking Up
------------------------------------------------------------

/- What stands in front of a setting that is printed. -/
def marksFor (place : Place) (arguments : Arguments)
    (source : Reader.Source) : String :=
  let sign := if arguments.has "null" then "\x00" else "\t"
  (if arguments.has "show-scope" then source.scope ++ sign else "")
    ++ (if arguments.has "show-origin" then
        shownPlace place source.place ++ sign
      else "")

/- What ends a setting that is printed. -/
def endingFor (arguments : Arguments) : String :=
  if arguments.has "null" then "\x00" else "\n"

/- Settings as they are listed. -/
def listing (place : Place) (arguments : Arguments)
    (sources : List Reader.Source) : String :=
  let sign := if arguments.has "null" then "\n" else "="
  String.join (sources.flatMap fun source =>
    source.settings.map fun setting =>
      let value := match arguments.has "name-only", setting.value with
        | false, some value => sign ++ value
        | _, _ => ""
      marksFor place arguments source ++ setting.name ++ value
        ++ endingFor arguments)

/- The values that a word is about. -/
def wantedBy (arguments : Arguments) (word? : Option String) :
    Attempt Inscribing.Wanted :=
  match word? with
  | none => .ok .every
  | some word =>
    if arguments.has "fixed-value" then .ok (.exactly word)
    else
      let (isNegated, text) := match word.toList with
        | '!' :: rest => (true, rest)
        | chars => (false, chars)
      match Regex.read ⟨true, true⟩ text with
      | .ok pattern => .ok (.fitting pattern isNegated)
      | .error _ => .error ⟨6, "error: invalid pattern: " ++ word⟩

/- A pattern for names with small letters where they do not count. -/
def smallEnds (text : List Char) : List Char :=
  let lower (c : Char) : Char := c.toLower
  let first := text.takeWhile (· != '.')
  let text := first.map lower ++ text.drop first.length
  let last := text.reverse.takeWhile (· != '.')
  text.take (text.length - last.length) ++ last.reverse.map lower

/- The names that a word is about. -/
def namesFor (isPattern : Bool) (word : String) :
    Attempt (String → Bool) :=
  if isPattern then
    match Regex.read ⟨true, true⟩ (smallEnds word.toList) with
    | .ok pattern => .ok (Inscribing.Wanted.fits pattern)
    | .error _ => .error ⟨6, "error: invalid key pattern: " ++ word⟩
  else
    match Inscribing.Key.parse word with
    | .ok key => .ok (· == key.full)
    | .error failure => .error ⟨1, failure.text⟩

/- A setting as it is printed where it was looked up. -/
def printed (place : Place) (arguments : Arguments) (form : Form)
    (showsNames : Bool) (source : Reader.Source) (setting : Setting) :
    Attempt String := do
  let value ← formed form place.call.env setting.name setting.value
  let sign := if arguments.has "null" then "\n" else " "
  let shown := match showsNames with
    | false => value
    | true =>
      if arguments.has "name-only"
          || (form == .plain && setting.value.isNone) then setting.name
      else setting.name ++ sign ++ value
  return marksFor place arguments source ++ shown ++ endingFor arguments

/- Look settings up; how they are told is up to the options. -/
def lookUp (place : Place) (arguments : Arguments) (form : Form)
    (sources : Attempt (List Reader.Source)) (isPattern isAll : Bool)
    (words : List String) : Attempt (String × Bool) := do
  let word := words.headD ""
  let isName ← namesFor isPattern word
  let wanted ← wantedBy arguments words[1]?
  let isMeant (setting : Setting) : Bool :=
    isName setting.name && wanted.covers (some (setting.value.getD ""))
  let lists ← (← sources).mapM fun source =>
    (source.settings.filter isMeant).mapM
      (printed place arguments form isPattern source)
  let texts := lists.flatten
  let texts ← match texts, arguments.value? "default" with
    | [], some value => do
      pure [(← formed form place.call.env word (some value))
        ++ endingFor arguments]
    | texts, _ => pure texts
  return (String.join (if isAll then texts else texts.getLast?.toList),
    !texts.isEmpty)

/- The best setting for an address, for each name. -/
def bestFor (group : String) (name? : Option String) (address : Address)
    (settings : List Setting) : List (String × Option String) :=
  let front := group ++ "."
  let found := settings.filterMap fun setting =>
    if !setting.name.startsWith front then none
    else
      match (Text.splitAt '.' (without front setting.name)).reverse with
      | [] => none
      | [name] => some (name, ((0, 0, 0), setting.value))
      | name :: above =>
        let pattern := Text.joinWith "." above.reverse
        ((Address.parse? pattern).bind (Address.fit? · address)).map
          fun fit => (name, (fit, setting.value))
  let isLess (a b : Nat × Nat × Nat) : Bool :=
    a.1 < b.1 || (a.1 == b.1 && (a.2.1 < b.2.1
      || (a.2.1 == b.2.1 && a.2.2 < b.2.2)))
  let names := ((found.map Prod.fst).mergeSort RawByte.precedes).eraseReps
  (names.filter (fun name => name?.all (· == name))).filterMap fun name =>
    let best? := (found.filter (fun (other, _) => other == name)).foldl
      (fun (best? : Option ((Nat × Nat × Nat) × Option String)) (_, new) =>
        match best? with
        | some best => if isLess new.1 best.1 then best? else some new
        | none => some new)
      none
    best?.map fun (_, value) => (name, value)

/- Look settings up that hold for an address. -/
def lookUpFor (place : Place) (arguments : Arguments) (form : Form)
    (sources : List Reader.Source) (section' url : String) :
    Attempt (String × Bool) :=
  match Address.parse? url with
  | none => .error (.fatal "invalid URL scheme name or missing '://' suffix")
  | some address => do
    let (group, name?) := match Text.splitAt '.' section' with
      | group :: first :: rest =>
        (group, some (Text.joinWith "." (first :: rest)))
      | _ => (section', none)
    let found := bestFor group.toLower (name?.map String.toLower) address
      (sources.flatMap Reader.Source.settings)
    let texts ← found.mapM fun (name, value) =>
      printed place arguments form name?.isNone ⟨"", "", []⟩
        ⟨group.toLower ++ "." ++ name, value⟩
    return (String.join texts, !texts.isEmpty)

/- Whether output is to be colored, by a setting. -/
def isColored (settings : List Setting) (name : String)
    (isTerminal : Bool) : Bool :=
  let valueOf? (name : String) : Option (Option String) :=
    (Settings.last? settings name).map Setting.value
  let value := ((valueOf? name.toLower).orElse fun _ =>
    valueOf? "color.ui").getD (some "auto")
  if value == some "never" then false
  else if value == some "always" then true
  else if value == some "auto" then isTerminal
  else (Settings.boolean? value).getD false && isTerminal

------------------------------------------------------------
-- Writing
------------------------------------------------------------

/- The file that is written. -/
def written (place : Place) (scope : Scope) : Attempt Path :=
  match scope, place.own? with
  | .file _ p, _ => .ok p
  | .all, some own => .ok own
  | .all, none => .error (.fatal "not in a git directory")
  | .text _ origin _, _ =>
    .error (.fatal (if origin.startsWith "blob:" then
        "writing config blobs is not supported"
      else "writing to stdin is not supported"))

/- Change a file of settings; the change may fail. -/
def change (world : World) (place : Place) (file : Path)
    (edit : String → Attempt String) : Ran :=
  let cwd := place.call.cwd
  let locked (why : String) : Ran :=
    Failure.ran world ⟨255, "error: could not lock config file "
      ++ file ++ ": " ++ why⟩
  let real := match world.files.resolved? cwd file with
    | some (loc, .file _ _) => loc.toPath
    | _ => file
  if world.files.pathExists cwd (real ++ Job.lockEnding) then
    locked "File exists"
  else
    match world.files.resolved? cwd file with
    | some (_, .directory) =>
      Failure.ran world ⟨4, "error: could not write config file " ++ file⟩
    | _ =>
      let text := match world.files.read? cwd file with
        | some content => RawByte.decode content
        | none => ""
      match edit text with
      | .error failure => Failure.ran world failure
      | .ok text =>
        match world.files.write? cwd file
            (fun _ => RawByte.encode text) with
        | .ok files => Ran.silent (world.withFiles files) 0
        | .error _ => locked "No such file or directory"

/- Change settings of a name. -/
def changeKey (world : World) (place : Place) (scope : Scope)
    (name : String) (value? : Option String)
    (wanted : Attempt Inscribing.Wanted) (isMany : Bool) : Attempt Ran := do
  let file ← written place scope
  let key ← Inscribing.Key.parse name
  let isThere := place.files.pathExists place.call.cwd file
  return change world place file fun text => do
    let wanted ← if isThere then wanted else pure .every
    match Inscribing.change text key value? wanted isMany with
    | .ok text => return text
    | .error .malformed =>
      .error ⟨3, "error: bad config line 1 in file " ++ file
        ++ "\nerror: invalid config file " ++ file⟩
    | .error .unsettled =>
      .error ⟨5, if value?.isSome then
          "error: cannot overwrite multiple values with a single value"
        else ""⟩

/- Change the name of a section, or take it away. -/
def changeSection (world : World) (place : Place) (scope : Scope)
    (name : String) (new? : Option String) : Attempt Ran := do
  let file ← written place scope
  match new? with
  | some new =>
    if !Inscribing.isGoodSection new then
      .error ⟨255, "error: invalid section name: " ++ new⟩
  | none => pure ()
  return change world place file fun text =>
    match Inscribing.renameSection text name new? with
    | (_, 0) => .error (.fatal ("no such section: " ++ name))
    | (text, _) => .ok text

/- Let the user edit a file of settings. -/
def edit (world : World) (place : Place) (scope : Scope)
    (settings : List Setting) : Attempt Ran := do
  let file ← match scope, place.own? with
    | .file _ p, _ => pure p
    | .all, some own => pure own
    | .all, none => .error (.fatal "not in a git directory")
    | .text _ _ _, _ => .error (.fatal "editing stdin is not supported")
  let call := place.call
  let isDumb := match call.env.lookup "TERM" with
    | none => true
    | some term => term == "dumb"
  let named? := (call.env.lookup "GIT_EDITOR").orElse fun _ =>
    (Settings.last? settings "core.editor").bind Setting.value
  let editor? := (named?.orElse fun _ =>
    if isDumb then none else call.env.lookup "VISUAL").orElse fun _ =>
      call.env.lookup "EDITOR"
  match editor? with
  | none => return Ran.silent world 0
  | some ":" => return Ran.silent world 0
  | some editor =>
    let start : Start :=
      ⟨"sh", ["-c", editor ++ " \"$@\"", editor, file], call.env, call.cwd,
        call.stdin, false⟩
    match call.launch world start with
    | some ran => return { ran with code := some 0 }
    | none => return Ran.silent world 0

------------------------------------------------------------
-- Carrying Out
------------------------------------------------------------

/- What is to be done, by options and the number of words. -/
def actionOf (arguments : Arguments) (words : List String) :
    Attempt String :=
  match actions.filter arguments.has with
  | [] =>
    match words.length with
    | 1 => .ok "get"
    | 2 => .ok "set"
    | 3 => .ok "set-all"
    | _ => misused "no action specified"
  | [action] => .ok action
  | _ => misused "only one action at a time"

/- Check that options go together. -/
def checkOptions (arguments : Arguments) (action : String)
    (words : List String) : Attempt Unit := do
  if arguments.has "name-only"
      && !(["list", "get-regexp"].contains action) then
    misused "--name-only is only applicable to --list or --get-regexp"
  if arguments.has "show-origin"
      && !(["get", "get-all", "get-regexp", "list"].contains action) then
    misused "--show-origin is only applicable to --get, --get-all, --get-regexp, and --list"
  if arguments.has "default" && action != "get" then
    misused "--default is only applicable to --get"
  if arguments.has "fixed-value" then
    let isFine :=
      if ["get", "get-all", "get-regexp", "unset",
          "unset-all"].contains action then 1 < words.length
      else ["set-all", "replace-all"].contains action && 2 < words.length
    if !isFine then misused "--fixed-value only applies with 'value-pattern'"

/- Tell what was looked up. -/
def told (world : World) (found : Attempt (String × Bool)) : Attempt Ran := do
  let (text, isFound) ← found
  return Ran.printing world (if isFound then 0 else 1) text

/- Carry an action out. -/
def perform (world : World) (place : Place) (arguments : Arguments)
    (form : Form) (found : List Setting) (scope : Scope) (action : String)
    (words : List String) : Attempt Ran := do
  let sources := sourcesIn place arguments found scope
  let name := words.headD ""
  let changing (value? : Option String)
      (wanted : Attempt Inscribing.Wanted) (isMany : Bool) : Attempt Ran :=
    changeKey world place scope name value? wanted isMany
  let valued : Attempt (Option String) := do
    return some (← normal form name (words.getD 1 ""))
  match action with
  | "list" =>
    checkCount words 0 0
    let sources ← sources
    match sources, scope with
    | [], .file _ p =>
      .error (.fatal ("unable to read config file '" ++ p
        ++ "': No such file or directory"))
    | _, _ => return Ran.printing world 0 (listing place arguments sources)
  | "edit" =>
    checkCount words 0 0
    edit world place scope found
  | "get" =>
    checkCount words 1 2
    told world (lookUp place arguments form sources false false words)
  | "get-all" =>
    checkCount words 1 2
    told world (lookUp place arguments form sources false true words)
  | "get-regexp" =>
    checkCount words 1 2
    told world (lookUp place arguments form sources true true words)
  | "get-urlmatch" =>
    checkCount words 2 2
    told world
      (lookUpFor place arguments form (← sources) name (words.getD 1 ""))
  | "set" =>
    checkCount words 2 2
    changing (← valued) (.ok .every) false
  | "set-all" =>
    checkCount words 2 3
    changing (← valued) (wantedBy arguments words[2]?) false
  | "add" =>
    checkCount words 2 2
    changing (← valued) (.ok .never) false
  | "replace-all" =>
    checkCount words 2 3
    changing (← valued) (wantedBy arguments words[2]?) true
  | "unset" =>
    checkCount words 1 2
    changing none (wantedBy arguments words[1]?) false
  | "unset-all" =>
    checkCount words 1 2
    changing none (wantedBy arguments words[1]?) true
  | "rename-section" =>
    checkCount words 2 2
    changeSection world place scope name words[1]?
  | "remove-section" =>
    checkCount words 1 1
    changeSection world place scope name none
  | "get-color" =>
    checkCount words 1 2
    let settings := (← sources).flatMap Reader.Source.settings
    let key? := (Inscribing.Key.parse name).toOption
    let value := ((key?.bind fun key => Settings.last? settings key.full).bind
      Setting.value).getD (words.getD 1 "")
    match Paint.parse? value with
    | some paint => return Ran.printing world 0 paint.sequence
    | none => .error (.fatal "unable to parse default color value")
  | _ =>
    checkCount words 1 2
    let settings := (← sources).flatMap Reader.Source.settings
    match words[1]? with
    | none =>
      return Ran.silent world (if isColored settings name false then 0 else 1)
    | some word =>
      match Settings.boolean? (some word) with
      | none =>
        .error (.fatal ("bad boolean config value '" ++ word
          ++ "' for 'command line'"))
      | some isTerminal =>
        return Ran.printing world 0
          (truth (isColored settings name isTerminal) ++ "\n")

/- Read or write settings. -/
def run (world : World) (place : Place) (args : List String)
    (found : List Setting) : Ran :=
  finish world do
    let arguments ← Arguments.parse (rules.map Arguments.Rule.of) true args
    let form ← Form.of arguments
    let words := arguments.all
    let scope ← scopeFor place arguments
    if arguments.hasAny ["get-color", "get-colorbool"] && form != .plain then
      misused "--get-color and variable type are incoherent"
    let action ← actionOf arguments words
    checkOptions arguments action words
    perform world place arguments form found scope action words

end Configuring

end Versions

end Sandbox

end TreeLint
