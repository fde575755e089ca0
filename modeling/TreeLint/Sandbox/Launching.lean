import TreeLint.Sandbox.Shell
import TreeLint.Sandbox.Versions.Program

/-
  Starting programs.

  Key definitions include:
    * `interpreter?`
    * `firstStarted`
    * `EnvRequest.ofArguments`
    * `runProgram`
    * `Shell.startProgram`

  A program is a file that may be started.  It is built in, or
  it is a script with the name of its interpreter in the first
  line.  What has neither form is left to the shell.
-/

------------------------------------------------------------
-- Programs
------------------------------------------------------------

namespace TreeLint

namespace Sandbox

/- How the content of a program that is built in starts. -/
def builtInStart : String := "\x7fELF"

/- The name of a program that is built in. -/
def builtInName? (content : List UInt8) : Option String :=
  let start := RawByte.encode builtInStart
  if start.isPrefixOf content then
    some (RawByte.decode (content.drop start.length))
  else
    none

/- How much of a file is looked at for its first line. -/
def firstLineLimit : Nat := 255

/- The bytes of a blank and of a tab. -/
def isBlankByte (b : UInt8) : Bool :=
  b == 32 || b == 9

/-
  The interpreter that the first line of a script asks for,
  and the one argument for it.  The name must be seen to its
  end within the bytes that are looked at.
-/
def interpreter? (content : List UInt8) : Option (Path × List String) :=
  match content with
  | 35 :: 33 :: rest =>
    let seen := rest.take (firstLineLimit - 2)
    let isCut := !seen.contains 10 && seen.length < rest.length
    let line := (seen.takeWhile (· != 10)).dropWhile isBlankByte
    let program := line.takeWhile fun b => !isBlankByte b && b != 0
    let argument :=
      (((line.drop program.length).dropWhile isBlankByte).takeWhile
        (· != 0)).reverse.dropWhile isBlankByte
    if program.isEmpty
        || (isCut && program.length == line.length) then
      none
    else
      some (RawByte.decode program,
        if argument.isEmpty then []
        else [RawByte.decode argument.reverse])
  | _ => none

/- Give programs to try until one of them can be started. -/
def firstStarted (attempt : Path → Except LaunchError Ran) :
    LaunchError → List Path → Except LaunchError Ran
  | error, [] => .error error
  | error, place :: rest =>
    match attempt place with
    | .ok ran => .ok ran
    | .error found =>
      if found.isPassedOver then
        firstStarted attempt
          (if found == .notAllowed then found else error) rest
      else
        .error found

/- The places where a program of a name may be. -/
def placesIn (searchPath : String) (name : String) : List Path :=
  if name.contains '/' then
    [name]
  else
    (Text.splitAt ':' searchPath).map
      (fun directory => Path.join directory name)

------------------------------------------------------------
-- Changed Environments
------------------------------------------------------------

/- What a program is to be started with. -/
structure EnvRequest where
  isFresh : Bool
  removed : List String
  directory : Option Path
  /- Assignments, and the command behind them. -/
  words : List String

namespace EnvRequest

/- The words of a text, with quotes and backslashes taken off. -/
def splitWords : List Char → List (List Char) → Option (List Char) →
    Option Char → List String
  | [], done, word?, _ =>
    (word?.toList ++ done).reverse.map
      (fun (word : List Char) => String.ofList word.reverse)
  | c :: rest, done, word?, some q =>
    if c == q then splitWords rest done word? none
    else splitWords rest done (some (c :: word?.getD [])) (some q)
  | c :: rest, done, word?, none =>
    if c == '"' || c == '\'' then
      splitWords rest done (some (word?.getD [])) (some c)
    else if c == ' ' || c == '\t' || c == '\n' then
      match word? with
      | some word => splitWords rest (word :: done) none none
      | none => splitWords rest done none none
    else if c == '\\' then
      match rest with
      | d :: rest => splitWords rest done (some (d :: word?.getD [])) none
      | [] => splitWords [] done word? none
    else splitWords rest done (some (c :: word?.getD [])) none

/- Read options; what is wrong with them is told in words. -/
def ofArguments : Nat → EnvRequest → List String →
    Except String EnvRequest
  | 0, request, words => .ok { request with words }
  | _ + 1, request, [] => .ok request
  | fuel + 1, request, a :: rest =>
    let value (text : String)
        (use : String → List String → Except String EnvRequest)
        (letter : String) : Except String EnvRequest :=
      match text, rest with
      | "", [] =>
        .error ("option requires an argument -- '" ++ letter ++ "'")
      | "", next :: rest => use next rest
      | text, rest => use text rest
    let remove (name : String) (rest : List String) :=
      ofArguments fuel
        { request with removed := name :: request.removed } rest
    let enter (directory : String) (rest : List String) :=
      ofArguments fuel { request with directory := some directory } rest
    let split (text : String) (rest : List String) :=
      ofArguments fuel request (splitWords text.toList [] none none ++ rest)
    match a.toList with
    | ['-'] => ofArguments fuel { request with isFresh := true } rest
    | ['-', '-'] => .ok { request with words := rest }
    | '-' :: '-' :: name =>
      let (name, given) := name.span (· != '=')
      let given := match given with
        | _ :: text => some (String.ofList text)
        | [] => none
      match String.ofList name, given with
      | "ignore-environment", none =>
        ofArguments fuel { request with isFresh := true } rest
      | "unset", some name => remove name rest
      | "chdir", some path => enter path rest
      | "split-string", some text => split text rest
      | _, _ => .error ("unrecognized option '" ++ a ++ "'")
    | ['-', 'i'] => ofArguments fuel { request with isFresh := true } rest
    | '-' :: 'i' :: letters =>
      ofArguments fuel { request with isFresh := true }
        (String.ofList ('-' :: letters) :: rest)
    | '-' :: 'u' :: text => value (String.ofList text) remove "u"
    | '-' :: 'C' :: text => value (String.ofList text) enter "C"
    | '-' :: 'S' :: text => value (String.ofList text) split "S"
    | '-' :: c :: _ =>
      .error ("invalid option -- '" ++ String.singleton c ++ "'")
    | _ => .ok { request with words := a :: rest }

/- The environment after removals and assignments. -/
def environment (request : EnvRequest) (env : List (String × String)) :
    List (String × String) :=
  let kept :=
    if request.isFresh then []
    else env.filter (fun v => !request.removed.contains v.1)
  request.words.foldl
    (fun (env : List (String × String)) word =>
      match word.toList.span (· != '=') with
      | (name, _ :: value) =>
        Session.setVariable (String.ofList name) (String.ofList value) env
      | _ => env)
    kept

/- The same request with its assignments and its command apart. -/
def parts (request : EnvRequest) : EnvRequest × List String :=
  match request.words.span (fun word => word.contains '=') with
  | (assignments, command) =>
    ({ request with words := assignments }, command)

end EnvRequest

------------------------------------------------------------
-- Starting Programs
------------------------------------------------------------

/-
  Start a program.  A script is started by the interpreter it
  asks for; `runShell` stands for the shell itself.
-/
def runProgram (runShell : World → Start → Ran) :
    Nat → World → Path → Start → Except LaunchError Ran
  | 0, _, _, _ => .error .tooManyLinks
  | fuel + 1, world, program, start =>
    match world.files.locate start.cwd program with
    | .error e => .error (.ofPath e)
    | .ok loc =>
    match world.files.node? loc with
    | some (.file content true) =>
      match builtInName? content with
      | some name =>
        if name == "sh" then .ok (runShell world start)
        else if name == "git" then
          .ok (Versions.run
            (fun world start => (launch fuel world start).toOption)
            world start)
        else if name == "env" then .ok (runEnv fuel world start)
        else match Tools.starters.lookup name with
          | some program => .ok (program (launch fuel) world start)
          | none =>
            match Tools.run? name world start with
            | some ran => .ok ran
            | none => .error .noFormat
      | none =>
        match interpreter? content with
        | some (interpreter, arguments) =>
          runProgram runShell fuel world interpreter
            { start with
              name := interpreter
              args := arguments ++ program :: start.args }
        | none => .error .noFormat
    | _ => .error .notAllowed
where
  /- Start a program that is looked for under its name. -/
  launch (fuel : Nat) (world : World) (start : Start) :
      Except LaunchError Ran :=
    let attempt (place : Path) : Except LaunchError Ran :=
      match runProgram runShell fuel world place start with
      | .error .noFormat =>
        .ok (runShell world { start with args := place :: start.args })
      | tried => tried
    firstStarted attempt .notFound
      (placesIn ((start.env.lookup "PATH").getD defaultSearchPath)
        start.name)
  /- Start a program in a changed environment. -/
  runEnv (fuel : Nat) (world : World) (start : Start) : Ran :=
    let complain (status : Int) (text : String) : Ran :=
      Ran.complaining world status (start.name ++ ": " ++ text)
    match EnvRequest.ofArguments (start.args.length + 16)
        ⟨false, [], none, []⟩ start.args with
    | .error why =>
      complain 125
        (why ++ "\nTry '" ++ start.name ++ " --help' for more information.")
    | .ok request =>
      let (request, command) := request.parts
      let env := request.environment start.env
      let cwd? := match request.directory with
        | some path => world.files.directory? start.cwd path
        | none => some start.cwd
      match cwd?, command with
      | none, _ =>
        complain 125 ("cannot change directory to '"
          ++ request.directory.getD "" ++ "': No such file or directory")
      | some _, [] =>
        Ran.printing world 0
          (String.join (env.map (fun (n, v) => n ++ "=" ++ v ++ "\n")))
      | some cwd, name :: args =>
        match launch fuel world { start with name, args, env, cwd } with
        | .ok ran => ran
        | .error .notFound =>
          complain 127
            ("'" ++ name ++ "': No such file or directory"
              ++ (if name.contains ' ' then
                  "\n" ++ start.name
                    ++ ": use -[v]S to pass options in shebang lines"
                else ""))
        | .error .tooManyLinks =>
          complain 126
            ("'" ++ name ++ "': Too many levels of symbolic links")
        | .error .tooLong =>
          complain 126 ("'" ++ name ++ "': File name too long")
        | .error _ => complain 126 ("'" ++ name ++ "': Permission denied")

namespace Shell

/- The places where a program of a name may be. -/
def programPlaces (sh : Shell) (name : String) : List Path :=
  placesIn ((sh.valueOf? "PATH").getD defaultSearchPath) name

/-
  Start a program from a shell and take over what it leaves
  behind.  `runShell` stands for the shell as a program.
-/
def startProgram (runShell : World → Start → Ran) (depth : Nat)
    (sh : Shell) (name : String) (args : List String) : Shell :=
  let start : Start := ⟨name, args, sh.environment, sh.cwd, sh.stdin,
    sh.supply.isFile⟩
  let attempt (place : Path) : Except LaunchError Ran :=
    match runProgram runShell depth sh.world place start with
    | .error .noFormat =>
      .ok (runShell sh.world { start with args := place :: args })
    | tried => tried
  let fail (status : Int) (why : String) : Shell :=
    (sh.complainAs (name ++ ": " ++ why)).withStatus status
  if name.isEmpty then fail 127 "Permission denied"
  else
    match firstStarted attempt .notFound (sh.programPlaces name) with
    | .error .notFound => fail 127 "not found"
    | .error .tooManyLinks => fail 127 (reason .tooManyLinks)
    | .error .tooLong => fail 127 (reason .tooLong)
    | .error _ => fail 126 "Permission denied"
    | .ok ran =>
      let sh := { sh with
        world := ran.world }.keepUnread (ran.left?.getD sh.stdin)
      let sh := ran.printed.foldl
        (fun (sh : Shell) printed =>
          sh.write (if printed.isComplaint then 2 else 1) printed.bytes)
        sh
      match ran.code with
      | some code => sh.withStatus code
      | none => (sh.print 2 "Killed\n").withStatus 137

end Shell

end Sandbox

end TreeLint
