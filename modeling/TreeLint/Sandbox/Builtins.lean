import TreeLint.Sandbox.Expansion
import TreeLint.Sandbox.Grammar
import TreeLint.Sandbox.Signals

/-
  The commands that are built into the shell.

  Key definitions include:
    * `Shell.switchOptions`
    * `Shell.setParameters`
    * `Shell.readLine`
    * `Shell.getopts`
    * `Shell.builtins`
    * `Shell.builtin?`

  A built-in command is a function on the shell.  One that is
  used in a wrong way breaks off; whether the shell goes on
  then depends on the command and is decided elsewhere.
-/

------------------------------------------------------------
-- Options Of The Shell
------------------------------------------------------------

namespace TreeLint

namespace Sandbox

namespace Shell

/- Switch an option on or off. -/
def switch (sh : Shell) (isOn : Bool) (letter : Char) : Shell :=
  let others := sh.options.filter (· != letter)
  { sh with options := if isOn then letter :: others else others }

/- Switch options by their letters. -/
def switchLetters (isOn : Bool) :
    Shell → List Char → Except String Shell
  | sh, [] => .ok sh
  | sh, c :: rest =>
    if (optionNames.map Prod.fst).contains c then
      switchLetters isOn (sh.switch isOn c) rest
    else
      .error ("Illegal option -" ++ String.singleton c)

/- Switch an option by its name. -/
def switchName (isOn : Bool) (sh : Shell) (name : String) :
    Except String Shell :=
  match optionNames.find? (fun o => o.2 == name) with
  | some (letter, _) => .ok (sh.switch isOn letter)
  | none => .error ("Illegal option -o " ++ name)

/- The names of options that cannot be switched by a letter. -/
def namesWithoutLetters : List String := ["nolog", "debug"]

/- Print all options, to be read or to be carried out. -/
def printOptions (sh : Shell) (isToBeRead : Bool) : Shell :=
  let states := optionNames.map (fun (letter, name) => (name, sh.has letter))
    ++ namesWithoutLetters.map (fun name => (name, false))
  let line : String × Bool → String := fun (name, isOn) =>
    if isToBeRead then
      name ++ String.ofList (List.replicate (16 - name.length) ' ')
        ++ (if isOn then "on" else "off") ++ "\n"
    else
      "set " ++ (if isOn then "-o " else "+o ") ++ name ++ "\n"
  sh.print 1
    ((if isToBeRead then "Current option settings\n" else "")
      ++ String.join (states.map line))

/- What the options in front of arguments have been read to. -/
structure Switched where
  shell : Shell
  /- The script is an argument. -/
  hasScript : Bool
  rest : List String
  /- A lone dash or two of them have ended the options. -/
  isEnded : Bool

/-
  Read options in front of arguments.  The letter `c` is one
  of them only where the shell is started.
-/
def switchOptions (isStart : Bool) :
    Nat → Shell → Bool → List String → Except String Switched
  | 0, sh, hasScript, args => .ok ⟨sh, hasScript, args, false⟩
  | _ + 1, sh, hasScript, [] => .ok ⟨sh, hasScript, [], false⟩
  | fuel + 1, sh, hasScript, a :: rest => do
    let read (isOn : Bool) (letters : List Char) :
        Except String Switched := do
      let asksScript := isStart && letters.contains 'c'
      let named := letters.filter (fun c => c == 'o')
      let sh ← switchLetters isOn sh
        (letters.filter (fun c => c != 'o' && !(isStart && c == 'c')))
      match named, rest with
      | [], rest =>
        switchOptions isStart fuel sh (hasScript || asksScript) rest
      | _, [] => return ⟨sh.printOptions isOn, hasScript, [], false⟩
      | _, name :: rest =>
        let sh ← switchName isOn sh name
        switchOptions isStart fuel sh (hasScript || asksScript) rest
    match a.toList with
    | ['-'] =>
      let sh := if isStart then sh
        else (sh.switch false 'x').switch false 'v'
      return ⟨sh, hasScript, rest, true⟩
    | ['-', '-'] => return ⟨sh, hasScript, rest, true⟩
    | '-' :: letters => read true letters
    | '+' :: letters => read false letters
    | _ => return ⟨sh, hasScript, a :: rest, false⟩

/- Print all variables. -/
def printVariables (sh : Shell) (front : String) (names : List String) :
    Shell :=
  sh.print 1 (String.join ((names.mergeSort).map fun name =>
    front ++ name ++ (match sh.valueOf? name with
      | some value => "=" ++ quote value
      | none => "") ++ "\n"))

/- Set parameters. -/
def withParameters (sh : Shell) (params : List String) : Shell :=
  { sh with params, optionsRead := (1, 0) }

/- Switch options, and set the parameters behind them. -/
def setParameters (sh : Shell) (args : List String) : Shell × Flow :=
  if args.isEmpty then
    ((sh.printVariables "" (sh.vars.map Prod.fst)).withStatus 0, .next)
  else
    match switchOptions false (args.length + 1) sh false args with
    | .error why => (sh.breakOff why, .next)
    | .ok read =>
      let isCleared := args.getLast? == some "--"
      let sh :=
        if read.rest.isEmpty && !(read.isEnded && isCleared) then read.shell
        else read.shell.withParameters read.rest
      (sh.withStatus 0, .next)

------------------------------------------------------------
-- Variables
------------------------------------------------------------

/- A name, and the value behind an equals sign. -/
def nameAndValue (text : String) : String × Option String :=
  match text.toList.span (· != '=') with
  | (name, _ :: value) => (String.ofList name, some (String.ofList value))
  | (name, []) => (String.ofList name, none)

/- Do something for each name, unless it is no name. -/
def overNames (action : Shell → String → Option String → Shell) :
    Shell → List String → Shell
  | sh, [] => sh
  | sh, text :: rest =>
    let (name, value) := nameAndValue text
    if !Script.isName name.toList then
      sh.breakOff (name ++ ": bad variable name")
    else
      let sh := action sh name value
      if sh.isBroken then sh else overNames action sh rest

/- Export variables, or list those that are. -/
def exportAll (sh : Shell) (args : List String) : Shell × Flow :=
  sh.withOptions "p" "" args fun options names =>
    if names.isEmpty || !options.isEmpty then
      ((sh.printVariables "export " sh.exported).withStatus 0, .next)
    else
      (overNames
        (fun sh name value =>
          match value with
          | some value => (sh.assign name value).exportVariable name
          | none => sh.exportVariable name)
        (sh.withStatus 0) names, .next)

/- Fix variables, or list those that are. -/
def fixAll (sh : Shell) (args : List String) : Shell × Flow :=
  sh.withOptions "p" "" args fun options names =>
    if names.isEmpty || !options.isEmpty then
      ((sh.printVariables "readonly " sh.fixed).withStatus 0, .next)
    else
      (overNames
        (fun sh name value =>
          let sh := match value with
            | some value => sh.assign name value
            | none => sh
          { sh with
            fixed :=
              if sh.fixed.contains name then sh.fixed
              else name :: sh.fixed })
        (sh.withStatus 0) names, .next)

/- Make variables local to a function. -/
def makeLocal (sh : Shell) (args : List String) : Shell × Flow :=
  if sh.depth == 0 then (sh.breakOff "not in a function", .next)
  else
    (overNames
      (fun sh name value =>
        let sh :=
          if sh.saved.any (fun s => s.1 == name) then sh
          else { sh with saved := (name, sh.valueOf? name) :: sh.saved }
        match value with
        | some value => sh.assign name value
        | none => sh)
      (sh.withStatus 0) args, .next)

/- Give local variables back what they were before. -/
def restoreSaved (sh : Shell) (before : List (String × Option String)) :
    Shell :=
  let sh := sh.saved.foldl
    (fun (sh : Shell) (name, value) =>
      match value with
      | some value => sh.setVariable name value
      | none => { sh with vars := sh.vars.filter (fun v => v.1 != name) })
    sh
  { sh with saved := before }

/- Remove variables or functions. -/
def unset (sh : Shell) (args : List String) : Shell × Flow :=
  sh.withOptions "vf" "" args fun options names =>
    let sh := sh.withStatus 0
    if (options.getLast?.map Prod.fst) == some 'f' then
      ({ sh with
          functions := sh.functions.filter (fun f => !names.contains f.1) },
        .next)
    else
      (overNames
        (fun sh name _ =>
          if sh.fixed.contains name then
            sh.breakOff (name ++ ": is read only")
          else sh.dropVariable name)
        sh names, .next)

/- Set and export variables about the working directory. -/
def enter (sh : Shell) (cwd : Location) (directory : Path) : Shell :=
  let old := sh.directory
  let put (sh : Shell) (name value : String) : Shell :=
    (sh.setVariable name value).exportVariable name
  (put (put { sh with cwd, directory } "OLDPWD" old) "PWD"
    directory).withStatus 0

/- A path made simple, two slashes at the start apart. -/
def simplified (sh : Shell) (target : Path) : Path :=
  let path := Path.normalize (Path.join sh.directory target)
  if target.startsWith "//" && !target.startsWith "///" then "/" ++ path
  else path

/- The directories in which a relative one is looked for. -/
def searched (sh : Shell) (target : Path) : List Path :=
  let isDotted := target == "." || target == ".."
    || target.startsWith "./" || target.startsWith "../"
  match sh.valueOf? "CDPATH" with
  | some path =>
    if isDotted || Path.isAbsolute target || path.isEmpty then []
    else Text.splitAt ':' path
  | none => []

/- Change the working directory. -/
def changeDirectory (sh : Shell) (args : List String) : Shell × Flow :=
  sh.withOptions "LP" "" args fun options targets =>
    let isPhysical := (options.getLast?.map Prod.fst) == some 'P'
    let (target, echoes) :=
      match targets with
      | [] => ((sh.valueOf? "HOME").getD "", false)
      | "-" :: _ => ((sh.valueOf? "OLDPWD").getD "", true)
      | target :: _ => (target, false)
    let path := if target.isEmpty then "." else target
    let goal (path : Path) : Path :=
      if isPhysical then path else sh.simplified path
    let tries := (sh.searched path).map
      (fun base =>
        (if base.isEmpty then path else Path.join base path,
          echoes || !base.isEmpty))
    match (tries ++ [(path, echoes)]).findSome? (fun (path, echoes) =>
        (sh.world.files.directory? sh.cwd (goal path)).map
          (fun cwd => (cwd, goal path, echoes))) with
    | some (cwd, path, echoes) =>
      let sh := sh.enter cwd (if isPhysical then cwd.toPath else path)
      (if echoes then sh.print 1 (sh.directory ++ "\n") else sh, .next)
    | none => (sh.breakOff ("can't cd to " ++ target), .next)

/- Print the working directory. -/
def printDirectory (sh : Shell) (args : List String) : Shell × Flow :=
  sh.withOptions "LP" "" args fun options _ =>
    let path :=
      if (options.getLast?.map Prod.fst) == some 'P' then sh.cwd.toPath
      else sh.directory
    ((sh.print 1 (path ++ "\n")).withStatus 0, .next)

------------------------------------------------------------
-- Reading Lines
------------------------------------------------------------

/-
  A line of characters, and what is left of the input.  A
  backslash makes the next character an ordinary one and joins
  two lines.  The flag says whether the line was ended.
-/
def lineFrom (isRaw : Bool) :
    List Glyph → List Char → List Glyph × Bool × List Char
  | line, [] => (line.reverse, false, [])
  | line, c :: rest =>
    if c == '\n' then (line.reverse, true, rest)
    else if c == '\\' && !isRaw then
      match rest with
      | [] => (line.reverse, false, [])
      | d :: rest =>
        lineFrom isRaw (if d == '\n' then line else .quoted d :: line) rest
    else lineFrom isRaw (.expanded c :: line) rest

/- Whether a glyph is a separator, and one that is a blank. -/
def isSeparator (separators : List Char) (blank : Bool) : Glyph → Bool
  | .expanded c =>
    separators.contains c
      && (!blank || c == ' ' || c == '\t' || c == '\n')
  | _ => false

/- Drop the separators behind a field: blanks and one other. -/
def dropSeparator (separators : List Char) (text : List Glyph) :
    List Glyph :=
  let rest := text.dropWhile (isSeparator separators true)
  match rest with
  | g :: more =>
    if isSeparator separators false g then
      more.dropWhile (isSeparator separators true)
    else rest
  | [] => []

/- Share a line out among names; the last one takes the rest. -/
def shareOut (separators : List Char) :
    List String → List Glyph → Shell → Shell
  | [], _, sh => sh
  | name :: names, text, sh =>
    let field := text.takeWhile (fun g => !isSeparator separators false g)
    let rest := dropSeparator separators (text.drop field.length)
    let value :=
      if names.isEmpty && !rest.isEmpty then
        (text.reverse.dropWhile (isSeparator separators true)).reverse
      else field
    if !Script.isName name.toList then
      sh.breakOff (name ++ ": bad variable name")
    else
      let sh := sh.assign name (Glyph.text value)
      if sh.isBroken then sh else shareOut separators names rest sh

/- Read a line into variables. -/
def readLine (sh : Shell) (args : List String) : Shell × Flow :=
  sh.withOptions "r" "p" args fun options names =>
    if names.isEmpty then (sh.breakOff "arg count", .next)
    else
      let text := (RawByte.decode sh.stdin).toList
      let (line, isEnded, rest) :=
        lineFrom (options.any (fun o => o.1 == 'r')) [] text
      let sh := sh.keepUnread (RawByte.encode (String.ofList rest))
      (shareOut sh.separators names
        (line.dropWhile (isSeparator sh.separators true))
        (sh.withStatus (if isEnded then 0 else 1)), .next)

------------------------------------------------------------
-- Reading Options
------------------------------------------------------------

/- What is found while options are read. -/
structure OptionFound where
  letter : Char
  /- The value of the option; none takes the variable away. -/
  value : Option String
  complaint : String
  /- The next parameter, and how much of the one before is read. -/
  position : Nat × Nat
  isEnd : Bool

/- Find the next option among arguments. -/
def nextOption (wanted : List Char) (args : List String)
    (position : Nat × Nat) : OptionFound :=
  let isQuiet := wanted.head? == some ':'
  let index := max position.1 1
  let word (i : Nat) : List Char :=
    ((args[i - 1]?).map String.toList).getD []
  let open_ := if position.2 == 0 || index ≤ 1 then []
    else (word (index - 1)).drop position.2
  let ended (index : Nat) : OptionFound :=
    ⟨'?', none, "", (index, 0), true⟩
  let take (index : Nat) (text : List Char) (read : Nat) : OptionFound :=
    match text with
    | [] => ended index
    | c :: more =>
      let after := if more.isEmpty then 0 else read + 1
      match c != ':', wanted.dropWhile (· != c) with
      | true, _ :: ':' :: _ =>
        if !more.isEmpty then
          ⟨c, some (String.ofList more), "", (index, 0), false⟩
        else
          match args[index - 1]? with
          | some value => ⟨c, some value, "", (index + 1, 0), false⟩
          | none =>
            if isQuiet then
              ⟨':', some (String.singleton c), "", (index, 0), false⟩
            else
              ⟨'?', none, "No arg for -" ++ String.singleton c
                ++ " option\n", (index, 0), false⟩
      | true, _ :: _ => ⟨c, some "", "", (index, after), false⟩
      | _, _ =>
        if isQuiet then
          ⟨'?', some (String.singleton c), "", (index, after), false⟩
        else
          ⟨'?', none, "Illegal option -" ++ String.singleton c ++ "\n",
            (index, after), false⟩
  match open_ with
  | _ :: _ => take index open_ position.2
  | [] =>
    match word index with
    | ['-', '-'] => ended (index + 1)
    | '-' :: c :: more => take (index + 1) (c :: more) 1
    | _ => ended index

/- Read the next option into a variable. -/
def getopts (sh : Shell) (args : List String) : Shell × Flow :=
  match args with
  | wanted :: name :: given =>
    let words := if given.isEmpty then sh.params else given
    let found := nextOption wanted.toList words
      (if sh.optionsRead.1 > words.length + 1 then (1, 0)
        else sh.optionsRead)
    let sh := sh.print 2 found.complaint
    let sh :=
      match found.value, found.isEnd with
      | _, true => sh
      | some value, _ => sh.setVariable "OPTARG" value
      | none, _ => sh.dropVariable "OPTARG"
    let sh := sh.setVariable "OPTIND" (toString found.position.1)
    let sh := { sh with optionsRead := found.position }
    if !Script.isName name.toList then
      (sh.breakOff (name ++ ": bad variable name"), .next)
    else
      ((sh.withStatus (if found.isEnd then 1 else 0)).assign name
        (String.singleton found.letter), .next)
  | _ =>
    (sh.breakOff "Usage: getopts optstring var [arg...]", .next)

------------------------------------------------------------
-- Where Commands Come From
------------------------------------------------------------

/- Commands that are built in. -/
def builtinNames : List String :=
  Grammar.specialBuiltins ++
    [ "[", "alias", "bg", "cd", "chdir", "command", "echo", "false", "fg",
      "getopts", "hash", "jobs", "kill", "local", "printf", "pwd", "read",
      "test", "true", "type", "ulimit", "umask", "unalias", "wait" ]

/- Whether an error of a built-in command ends the shell. -/
def isSpecial (name : String) : Bool :=
  name == "local" || Grammar.specialBuiltins.contains name

/- The program of a name in the directories of the search path. -/
def programOf? (sh : Shell) (name : String) : Option Path :=
  if name.contains '/' then
    if sh.world.files.pathExists sh.cwd name then some name else none
  else
    (((Text.splitAt ':' ((sh.valueOf? "PATH").getD defaultSearchPath)).map
      (fun directory =>
        if directory.isEmpty then name
        else directory ++ "/" ++ name)).find?
      (sh.world.files.isProgram sh.cwd))

/- Say what a command is, at length or in short. -/
def describe (sh : Shell) (isLong : Bool) (name : String) : Shell :=
  let say (short long : String) : Shell :=
    sh.print 1 ((if isLong then name ++ " is " ++ long else short) ++ "\n")
  if Grammar.keywords.contains name then say name "a shell keyword"
  else
    match sh.shortcuts.lookup name with
    | some meaning =>
      say ("alias " ++ name ++ "=" ++ quote meaning)
        ("an alias for " ++ meaning)
    | none =>
      if Grammar.specialBuiltins.contains name then
        say name "a special shell builtin"
      else if (sh.functions.lookup name).isSome then
        say name "a shell function"
      else if builtinNames.contains name then say name "a shell builtin"
      else
        match sh.programOf? name with
        | some place => say place place
        | none =>
          (if isLong then sh.print 1 (name ++ ": not found\n")
            else sh).withStatus 127

/- Say what commands are. -/
def describeAll (sh : Shell) (isLong : Bool) (names : List String) :
    Shell × Flow :=
  (names.foldl (fun sh name => sh.describe isLong name) (sh.withStatus 0),
    .next)

/- Say what one command is, if an option asks for that. -/
def command (sh : Shell) (args : List String) : Shell × Flow :=
  sh.withOptions "pvV" "" args fun options names =>
    match options.getLast?, names with
    | some (letter, _), name :: _ =>
      if letter == 'p' then (sh.withStatus 0, .next)
      else sh.describeAll (letter == 'V') [name]
    | _, _ => (sh.withStatus 0, .next)

/- Look for commands. -/
def hash (sh : Shell) (args : List String) : Shell × Flow :=
  sh.withOptions "r" "" args fun _ names =>
    (names.foldl
      (fun sh name =>
        if (sh.functions.lookup name).isSome || builtinNames.contains name
            || (sh.programOf? name).isSome then
          sh
        else
          (sh.complainAs (name ++ ": not found")).withStatus 1)
      (sh.withStatus 0), .next)

/- Name commands, or list the names. -/
def nickname (sh : Shell) (args : List String) : Shell × Flow :=
  let line : String × String → String :=
    fun (name, meaning) => name ++ "=" ++ quote meaning ++ "\n"
  let sh := sh.withStatus 0
  if args.isEmpty then
    (sh.print 1 (String.join (sh.shortcuts.reverse.map line)), .next)
  else
    (args.foldl
      (fun (sh : Shell) arg =>
        match nameAndValue arg with
        | (name, some meaning) =>
          { sh with
            shortcuts := (name, meaning)
              :: sh.shortcuts.filter (fun s => s.1 != name) }
        | (name, none) =>
          match sh.shortcuts.lookup name with
          | some meaning => sh.print 1 (line (name, meaning))
          | none =>
            (sh.print 2 ("alias: " ++ name ++ " not found\n")).withStatus 1)
      sh, .next)

/- Drop names of commands. -/
def unalias (sh : Shell) (args : List String) : Shell × Flow :=
  sh.withOptions "a" "" args fun options names =>
    let sh := sh.withStatus 0
    if !options.isEmpty then ({ sh with shortcuts := [] }, .next)
    else
      (names.foldl
        (fun (sh : Shell) name =>
          if (sh.shortcuts.lookup name).isSome then
            { sh with
              shortcuts := sh.shortcuts.filter (fun s => s.1 != name) }
          else
            (sh.print 2
              ("unalias: " ++ name ++ " not found\n")).withStatus 1)
        sh, .next)

------------------------------------------------------------
-- Jobs And Limits
------------------------------------------------------------

/- Complain about a job that is not known. -/
def refuseJob (sh : Shell) (text : String) : Shell :=
  sh.breakOff ("No such job: " ++ text)

/- Wait for commands in the background. -/
def waitFor (sh : Shell) (args : List String) : Shell × Flow :=
  (args.foldl
    (fun (sh : Shell) arg =>
      if sh.isBroken then sh
      else if arg.startsWith "%" then sh.refuseJob arg
      else
        match number? arg, sh.background, arg == childNumber with
        | none, _, _ => sh.refuseNumber arg
        | some _, some status, true => sh.withStatus status
        | some _, _, _ => sh.withStatus 127)
    (sh.withStatus 0), .next)

/- List commands in the background. -/
def jobs (sh : Shell) (args : List String) : Shell × Flow :=
  sh.withOptions "lp" "" args fun _ names =>
    match names with
    | [] => (sh.withStatus 0, .next)
    | name :: _ => (sh.refuseJob name, .next)

/- The digits of a mask of permissions. -/
def maskText (mask : Nat) : String :=
  let digits := (Nat.toDigits 8 mask).take 4
  String.ofList (List.replicate (4 - digits.length) '0' ++ digits)

/- The permissions that a mask leaves, in letters. -/
def maskLetters (mask : Nat) : String :=
  let part (who : String) (shift : Nat) : String :=
    let left := 7 - (mask / shift) % 8
    who ++ "=" ++ (if left ≥ 4 then "r" else "")
      ++ (if (left / 2) % 2 == 1 then "w" else "")
      ++ (if left % 2 == 1 then "x" else "")
  part "u" 64 ++ "," ++ part "g" 8 ++ "," ++ part "o" 1

/- Print or change the mask of permissions. -/
def umask (sh : Shell) (args : List String) : Shell × Flow :=
  sh.withOptions "S" "" args fun options modes =>
    let sh := sh.withStatus 0
    match modes with
    | [] =>
      (sh.print 1
        ((if options.isEmpty then maskText sh.mask
          else maskLetters sh.mask) ++ "\n"), .next)
    | mode :: _ =>
      if (mode.toList.head?.map Numeral.isDigit).getD false then
        match Numeral.natural? 8 mode.toList with
        | some mask => ({ sh with mask := mask % 512 }, .next)
        | none => (sh.refuseNumber mode, .next)
      else if mode.toList.all "ugoarwx,=+-".toList.contains then (sh, .next)
      else (sh.breakOff ("Illegal mode: " ++ mode), .next)

/- The letters of limits. -/
def limitLetters : String := "HSatfdscmlpnvwr"

/- Print a limit, of which there is none. -/
def ulimit (sh : Shell) (args : List String) : Shell × Flow :=
  sh.withOptions limitLetters "" args fun _ values =>
    match values with
    | [] => ((sh.print 1 "unlimited\n").withStatus 0, .next)
    | value :: _ =>
      if value == "unlimited" || (number? value).isSome then
        (sh.withStatus 0, .next)
      else (sh.breakOff "bad number", .next)

------------------------------------------------------------
-- The Course Of A Script
------------------------------------------------------------

/- Leave or go on with loops. -/
def leaveLoop (flow : Nat → Flow) (sh : Shell) (args : List String) :
    Shell × Flow :=
  match (args.head?.map number?).getD (some 1) with
  | some (n + 1) =>
    let count := min (n + 1) sh.loops
    (sh.withStatus 0, if count == 0 then .next else flow count)
  | _ => (sh.refuseNumber (args.head?.getD ""), .next)

/- End something with the status given, or with the last one. -/
def endWith (flow : Flow) (sh : Shell) (args : List String) :
    Shell × Flow :=
  match args with
  | [] =>
    (if flow == .exit then sh.withStatus (sh.trapStatus.getD sh.status)
      else sh, flow)
  | text :: _ =>
    match number? text with
    | some n => (sh.withStatus (Int.ofNat n), flow)
    | none => (sh.refuseNumber text, .next)

/- Drop parameters. -/
def shift (sh : Shell) (args : List String) : Shell × Flow :=
  match (args.head?.map number?).getD (some 1) with
  | none => (sh.refuseNumber (args.head?.getD ""), .next)
  | some n =>
    if n > sh.params.length then
      (sh.breakOff "can't shift that many", .next)
    else
      ((sh.withParameters (sh.params.drop n)).withStatus 0, .next)

------------------------------------------------------------
-- Texts And Conditions
------------------------------------------------------------

/- Print arguments by a format. -/
def printf (sh : Shell) (args : List String) : Shell × Flow :=
  sh.withOptions "" "" args fun _ words =>
    match words with
    | format :: args =>
      let out := Format.printf format args
      ((out.complaints.foldl complainAs (sh.print 1 out.whole)).withStatus
        (Int.ofNat out.status), .next)
    | [] => (sh.breakOff "usage: printf format [arg ...]", .next)

/- Evaluate a condition. -/
def test (sh : Shell) (words : List String) : Shell × Flow :=
  match Condition.evaluate sh.world.files sh.cwd
      (words.length + 1) words with
  | .ok holds => (sh.withStatus (if holds then 0 else 1), .next)
  | .error why => (sh.breakOff why, .next)

/- Evaluate a condition in brackets. -/
def bracket (sh : Shell) (args : List String) : Shell × Flow :=
  if args.getLast? == some "]" then sh.test args.dropLast
  else (sh.breakOff "missing ]", .next)

/- Do nothing, with a status. -/
def nothing (status : Int) (sh : Shell) (_ : List String) : Shell × Flow :=
  (sh.withStatus status, .next)

/- The built-in commands that carry out no other scripts. -/
def builtins : List (String × (Shell → List String → Shell × Flow)) :=
  [ (":", nothing 0), ("true", nothing 0), ("false", nothing 1),
    ("echo", fun sh args =>
      ((sh.print 1 (Format.echo args)).withStatus 0, .next)),
    ("printf", printf), ("test", test), ("[", bracket),
    ("pwd", printDirectory), ("cd", changeDirectory),
    ("chdir", changeDirectory), ("exit", endWith .exit),
    ("return", endWith .leaveFunction), ("break", leaveLoop .leaveLoops),
    ("continue", leaveLoop .continueLoop), ("export", exportAll),
    ("readonly", fixAll), ("local", makeLocal), ("unset", unset),
    ("set", setParameters), ("shift", shift), ("read", readLine),
    ("getopts", getopts), ("trap", trap), ("kill", kill),
    ("type", fun sh args => sh.describeAll true args),
    ("command", command), ("hash", hash), ("alias", nickname),
    ("unalias", unalias), ("wait", waitFor), ("jobs", jobs),
    ("fg", fun sh _ => (sh.breakOff "No current job", .next)),
    ("bg", fun sh _ => (sh.breakOff "No current job", .next)),
    ("umask", umask), ("ulimit", ulimit),
    ("times", fun sh _ =>
      ((sh.print 1 (String.join (List.replicate 2
        "0m0.000000s 0m0.000000s\n"))).withStatus 0, .next)) ]

/-
  Carry out a built-in command.  What went wrong in it is told
  in its name.
-/
def builtin? (sh : Shell) (name : String)
    (args : List String) : Option (Shell × Flow) :=
  (builtins.lookup name).map fun action =>
    let (after, flow) := action { sh with speaker := some name } args
    ({ after with speaker := sh.speaker }, flow)

end Shell

end Sandbox

end TreeLint
