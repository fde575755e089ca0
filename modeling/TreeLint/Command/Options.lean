import TreeLint.Linter.Language
import TreeLint.Path.Basic
import TreeLint.Text.RawByte
import TreeLint.Text.Style

/-
  The options of the command line.

  Key definitions include:
    * `Options`
    * `Flag`
    * `ValueOption`
    * `ValueFault`
    * `UsageError`
    * `Options.parse`

  Flags are switched on, settings take a value.  A long name
  takes its value behind an equals sign or in the next
  argument; short names may be bundled in one argument, of
  which a setting takes the rest as its value.
-/

------------------------------------------------------------
-- Options
------------------------------------------------------------

namespace TreeLint

/- What a command line asks for. -/
structure Options where
  cpp : Bool
  javaScript : Bool
  python : Bool
  changed : Bool
  dryRun : Bool
  list : Bool
  directory : Option String
  verbose : Nat
  quiet : Bool
  config : Option String
deriving DecidableEq, Repr

namespace Options

/- What an empty command line asks for. -/
def none : Options :=
  ⟨false, false, false, false, false, false, .none, 0, false, .none⟩

/- The languages asked for, in the order of languages. -/
def languages (options : Options) : List Language :=
  (if options.cpp then [.cpp] else [])
    ++ (if options.python then [.python] else [])
    ++ (if options.javaScript then [.javaScript] else [])

end Options

/- The options that take no value. -/
inductive Flag where
  | cpp
  | javaScript
  | python
  | changed
  | dryRun
  | list
  | verbose
  | quiet
  | help
  | version
deriving DecidableEq, Repr

/- The options that take a value. -/
inductive ValueOption where
  | directory
  | config
deriving DecidableEq, Repr

/- An option of either kind. -/
inductive OptionName where
  | flag (f : Flag)
  | setting (s : ValueOption)
deriving DecidableEq, Repr

namespace OptionName

/- The long names of all options. -/
def longNames : List (String × OptionName) :=
  [ ("cc", .flag .cpp),
    ("cpp", .flag .cpp),
    ("cxx", .flag .cpp),
    ("c++", .flag .cpp),
    ("js", .flag .javaScript),
    ("javascript", .flag .javaScript),
    ("es", .flag .javaScript),
    ("py", .flag .python),
    ("python", .flag .python),
    ("changed", .flag .changed),
    ("dry-run", .flag .dryRun),
    ("list", .flag .list),
    ("directory", .setting .directory),
    ("verbose", .flag .verbose),
    ("quiet", .flag .quiet),
    ("config", .setting .config),
    ("help", .flag .help),
    ("version", .flag .version) ]

/- The option with a long name. -/
def ofLong? (name : String) : Option OptionName :=
  longNames.lookup name

/- The short names of the options that have one. -/
def shortNames : List (Char × OptionName) :=
  [ ('c', .flag .changed),
    ('C', .setting .directory),
    ('v', .flag .verbose),
    ('q', .flag .quiet),
    ('h', .flag .help),
    ('V', .flag .version) ]

/- The option with a short name. -/
def ofShort? (c : Char) : Option OptionName :=
  shortNames.lookup c

/- How an option is shown in messages. -/
def shown : OptionName → String
  | flag .cpp => "--cc"
  | flag .javaScript => "--js"
  | flag .python => "--py"
  | flag .changed => "--changed"
  | flag .dryRun => "--dry-run"
  | flag .list => "--list"
  | flag .verbose => "--verbose"
  | flag .quiet => "--quiet"
  | flag .help => "--help"
  | flag .version => "--version"
  | setting .directory => "--directory <DIRECTORY>"
  | setting .config => "--config <CONFIG>"

end OptionName

------------------------------------------------------------
-- Errors
------------------------------------------------------------

/- Why an option has no value that it can take. -/
inductive ValueFault where
  /- No value is given. -/
  | absent (setting : ValueOption)
  /- The value holds bytes outside UTF-8. -/
  | notText
deriving DecidableEq, Repr

/- Why a command line is not carried out. -/
inductive UsageError where
  | unknownArgument (argument : String)
  /- An option is given twice that may be given once. -/
  | repeated (option : OptionName)
  /- A flag is given a value. -/
  | valueForFlag (flag : Flag) (value : String)
  | missingValue (fault : ValueFault)
  | help
  | version
deriving DecidableEq, Repr

namespace UsageError

/- Asking for help or for the version is no failure. -/
def exitCode : UsageError → Nat
  | help => 0
  | version => 0
  | _ => 2

/- What is printed when help is asked for. -/
def helpText : String :=
  Text.joinWith "\n"
    [ "Find C++, Python and JavaScript sources and run their linters",
      "",
      "Usage: polylint [OPTIONS]",
      "",
      "Options:",
      "      --cc                     Lint C++ sources"
        ++ " [aliases: --cpp, --cxx, --c++]",
      "      --js                     Lint JavaScript sources"
        ++ " [aliases: --javascript, --es]",
      "      --py                     Lint Python sources"
        ++ " [aliases: --python]",
      "  -c, --changed                Only lint files changed relative to HEAD",
      "      --dry-run                Show what would be linted without"
        ++ " running any linter",
      "      --list                   List the configured linters and exit",
      "  -C, --directory <DIRECTORY>  Run as if started in <DIRECTORY>",
      "  -v, --verbose...             Increase verbosity (can be repeated)",
      "  -q, --quiet                  Suppress non-error output",
      "      --config <CONFIG>        Use custom configuration file"
        ++ " [env: POLYLINT_CONFIG=]",
      "  -h, --help                   Print help",
      "  -V, --version                Print version" ]

/- The parts of the message of an error, each with its style. -/
def parts : UsageError → List (Style × String)
  | unknownArgument argument =>
    [ (.boldRed, "error:"),
      (.plain, " unexpected argument '"),
      (.yellow, argument),
      (.plain, "' found") ]
  | repeated option =>
    [ (.boldRed, "error:"),
      (.plain, " the argument '"),
      (.yellow, option.shown),
      (.plain, "' cannot be used multiple times") ]
  | valueForFlag flag value =>
    [ (.boldRed, "error:"),
      (.plain, " unexpected value '"),
      (.yellow, value),
      (.plain, "' for '"),
      (.bold, (OptionName.flag flag).shown),
      (.plain, "' found; no more were expected") ]
  | missingValue (.absent setting) =>
    [ (.boldRed, "error:"),
      (.plain, " a value is required for '"),
      (.yellow, (OptionName.setting setting).shown),
      (.plain, "' but none was supplied") ]
  | missingValue .notText =>
    [ (.boldRed, "error:"),
      (.plain, " invalid UTF-8 was detected in one or more arguments") ]
  | help => [(.plain, helpText)]
  | version => [(.plain, "polylint 0.1.0")]

/- The wording of the message. -/
def message (styled : Bool) (error : UsageError) : String :=
  String.join
    (error.parts.map fun (style, text) => Style.paint styled style text)

end UsageError

------------------------------------------------------------
-- Applying Single Options
------------------------------------------------------------

namespace Options

/- Switch a flag on that may be given once. -/
def switchOn
    (flag : Flag)
    (isOn : Bool)
    (options : Options) : Except UsageError Options :=
  if isOn then .error (.repeated (.flag flag)) else .ok options

/- Apply a flag. -/
def applyFlag
    (options : Options) (flag : Flag) : Except UsageError Options :=
  match flag with
  | .cpp => switchOn .cpp options.cpp { options with cpp := true }
  | .javaScript =>
    switchOn .javaScript options.javaScript
      { options with javaScript := true }
  | .python =>
    switchOn .python options.python { options with python := true }
  | .changed =>
    switchOn .changed options.changed { options with changed := true }
  | .dryRun =>
    switchOn .dryRun options.dryRun { options with dryRun := true }
  | .list => switchOn .list options.list { options with list := true }
  | .verbose => .ok { options with verbose := min 255 (options.verbose + 1) }
  | .quiet => switchOn .quiet options.quiet { options with quiet := true }
  | .help => .error .help
  | .version => .error .version

/- A value that an option can take. -/
def textValue (value : String) : Except UsageError String :=
  if RawByte.isText value then
    .ok value
  else
    .error (.missingValue .notText)

/- Apply a setting. -/
def applyValue
    (options : Options)
    (setting : ValueOption)
    (value : String) : Except UsageError Options :=
  match setting, options.directory, options.config with
  | .directory, .none, _ =>
    (textValue value).map fun value =>
      { options with directory := some value }
  | .config, _, .none =>
    (textValue value).map fun value =>
      { options with config := some value }
  | setting, _, _ => .error (.repeated (.setting setting))

end Options

/-
  The options read so far.  A setting whose value stands in
  an argument of its own is applied only when the next option
  is recognized, or at the end.
-/
structure Reading where
  options : Options
  pending : Option (ValueOption × Option String)
deriving DecidableEq, Repr

namespace Reading

/- Before the first argument. -/
def start : Reading :=
  ⟨Options.none, none⟩

/- Apply what is pending. -/
def settle (reading : Reading) : Except UsageError Options :=
  match reading.pending with
  | none => .ok reading.options
  | some (setting, some value) =>
    reading.options.applyValue setting value
  | some (setting, none) => .error (.missingValue (.absent setting))

/- Whether the next argument may be a value. -/
def awaitsValue (reading : Reading) : Bool :=
  match reading.pending with
  | some (_, none) => true
  | _ => false

/- Apply a flag behind what is pending. -/
def flag (reading : Reading) (f : Flag) : Except UsageError Reading :=
  match reading.settle with
  | .error e => .error e
  | .ok options =>
    (options.applyFlag f).map (fun options => ⟨options, none⟩)

/- Apply a setting with its value behind what is pending. -/
def setting
    (reading : Reading)
    (s : ValueOption)
    (value : String) : Except UsageError Reading :=
  match reading.settle with
  | .error e => .error e
  | .ok options =>
    (options.applyValue s value).map (fun options => ⟨options, none⟩)

/- Let the value of a setting follow. -/
def await (reading : Reading) (s : ValueOption) : Except UsageError Reading :=
  match reading.settle with
  | .error e => .error e
  | .ok options => .ok ⟨options, some (s, none)⟩

/- Take an argument as the value that is awaited. -/
def takeValue
    (reading : Reading)
    (argument : String) : Except UsageError Reading :=
  match reading.pending with
  | some (s, none) => .ok { reading with pending := some (s, some argument) }
  | _ => .error (.unknownArgument argument)

------------------------------------------------------------
-- Arguments
------------------------------------------------------------

/- An argument of a long name, without its two dashes. -/
def long (reading : Reading) (text : List Char) :
    Except UsageError Reading :=
  let name := String.ofList (text.takeWhile (· != '='))
  let value? :=
    match text.dropWhile (· != '=') with
    | _ :: value => some (String.ofList value)
    | [] => none
  match OptionName.ofLong? name, value? with
  | some (.flag f), none => reading.flag f
  | some (.flag f), some value => .error (.valueForFlag f value)
  | some (.setting s), some value => reading.setting s value
  | some (.setting s), none => reading.await s
  | none, _ => .error (.unknownArgument ("--" ++ name))

/- An argument of short names, without its dash. -/
def short (reading : Reading) : List Char → Except UsageError Reading
  | [] => .ok reading
  | c :: rest =>
    match OptionName.ofShort? c with
    | some (.flag f) =>
      match reading.flag f with
      | .error e => .error e
      | .ok reading => reading.short rest
    | some (.setting s) =>
      match rest with
      | [] => reading.await s
      | '=' :: value => reading.setting s (String.ofList value)
      | value => reading.setting s (String.ofList value)
    | none =>
      .error (.unknownArgument ("-" ++ String.singleton c))

/- One argument in front of a double dash. -/
def argument (reading : Reading) (text : String) :
    Except UsageError Reading :=
  match text.toList with
  | '-' :: '-' :: rest => reading.long rest
  | ['-'] => reading.takeValue text
  | '-' :: rest => reading.short rest
  | _ => reading.takeValue text

/-
  All arguments.  Behind a double dash no argument is an
  option, and the command takes no other arguments.
-/
def arguments : Reading → List String → Except UsageError Options
  | reading, [] => reading.settle
  | reading, text :: rest =>
    if text == "--" then
      match rest with
      | [] => reading.settle
      | extra :: _ => .error (.unknownArgument extra)
    else
      match reading.argument text with
      | .error e => .error e
      | .ok reading => arguments reading rest

end Reading

------------------------------------------------------------
-- Command Lines
------------------------------------------------------------

namespace Options

/- The variable that stands in for the custom configuration. -/
def configVariable : String := "POLYLINT_CONFIG"

/- Where options name no custom configuration, the variable counts. -/
def completed
    (env : List (String × String))
    (options : Options) : Except UsageError Options :=
  match options.config, env.lookup configVariable with
  | .none, some value =>
    (textValue value).map fun value =>
      { options with config := some value }
  | _, _ => .ok options

/- Read a command line. -/
def parse
    (env : List (String × String))
    (args : List String) : Except UsageError Options :=
  match Reading.start.arguments args with
  | .error e => .error e
  | .ok options => options.completed env

end Options

end TreeLint
