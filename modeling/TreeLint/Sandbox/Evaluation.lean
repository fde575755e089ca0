import TreeLint.Sandbox.Builtins
import TreeLint.Sandbox.Launching

/-
  Carrying out scripts.

  Key definitions include:
    * `Shell.runSource`
    * `Shell.Means`
    * `Shell.simple`
    * `Shell.eval`
    * `Shell.program`

  A command is a function from a shell to the shell after it
  and to the way in which it ended.  All functions that may
  run for long take a number that bounds how deep commands are
  nested.
-/

------------------------------------------------------------
-- Texts As Scripts
------------------------------------------------------------

namespace TreeLint

namespace Sandbox

namespace Shell

/-
  Carry out lines of commands one after another.  The status
  is that of the last command, or zero if there is none.
-/
def runLines (run : Script → Shell → Shell × Flow) :
    Nat → Int → Grammar.Input → Shell → Shell × Flow
  | 0, _, _, sh => (sh, .next)
  | fuel + 1, last, input, sh =>
    match Grammar.next input with
    | .error problem =>
      ({ sh with line := problem.line }.breakOff
        ("Syntax error: " ++ problem.text), .exit)
    | .ok (none, _) => (sh.withStatus last, .next)
    | .ok (some (.block []), rest) => runLines run fuel last rest sh
    | .ok (some script, rest) =>
      match run script sh with
      | (sh, .next) => runLines run fuel sh.status rest sh
      | ended => ended

/- Carry out a text as a script. -/
def runSource (run : Script → Shell → Shell × Flow)
    (sh : Shell) (text : List Char) : Shell × Flow :=
  let tokens := Script.tokens 1 text
  runLines run (tokens.length + 1) 0 (Grammar.Input.ofTokens tokens) sh

------------------------------------------------------------
-- Traps At Work
------------------------------------------------------------

/- Carry out what is set for a signal, and keep the status. -/
def runTrap (run : Script → Shell → Shell × Flow) (action : List Char)
    (sh : Shell) : Shell × Flow :=
  let (after, flow) :=
    runSource run { sh with trapStatus := some sh.status } action
  (if flow == .exit then after
    else { after.withStatus sh.status with trapStatus := sh.trapStatus },
    flow)

/- Carry out what is set for signals that have come in. -/
def runPending (run : Script → Shell → Shell × Flow) :
    List String → Shell → Shell × Flow
  | [], sh => (sh, .next)
  | signal :: rest, sh =>
    match runTrap run ((sh.trapOf? signal).getD []) sh with
    | (sh, .next) => runPending run rest sh
    | ended => ended

/- Attend to signals after a command. -/
def attended (run : Script → Shell → Shell × Flow) :
    Shell × Flow → Shell × Flow
  | (sh, .next) =>
    if sh.pending.isEmpty then (sh, .next)
    else runPending run sh.pending { sh with pending := [] }
  | ended => ended

/- Carry out what is left for the end of a shell. -/
def finished (run : Script → Shell → Shell × Flow) :
    Shell × Flow → Shell × Flow
  | (sh, .killed) => (sh, .killed)
  | (sh, flow) =>
    match sh.trapOf? "EXIT" with
    | some (c :: rest) =>
      runTrap run (c :: rest)
        { sh.setTrap "EXIT" none with isBroken := false }
    | _ => (sh, flow)

/- The status of a process that ends with a number. -/
def processStatus (n : Int) : Int :=
  n % 256

/- Carry out commands in a shell of their own. -/
def inChild (run : Script → Shell → Shell × Flow)
    (work : Shell → Shell × Flow) (sh : Shell) : Shell × Flow :=
  let (after, flow) := finished run (work sh.withoutTraps)
  (after.withStatus (processStatus after.status), flow)

------------------------------------------------------------
-- Repetition
------------------------------------------------------------

/- What a loop does about how its body ended. -/
inductive AfterBody where
  | again
  | done (flow : Flow)

/- Leave or go on with a loop. -/
def afterBody : Flow → AfterBody
  | .next => .again
  | .leaveLoops n => .done (if n ≤ 1 then .next else .leaveLoops (n - 1))
  | .continueLoop n => if n ≤ 1 then .again else .done (.continueLoop (n - 1))
  | flow => .done flow

/- How long a loop may run. -/
def loopLimit : Nat := 1000000

/- Repeat a body as long as a condition has the expected result. -/
def repeatWhile
    (expected : Bool)
    (condition body : Shell → Shell × Flow) :
    Nat → Int → Shell → Shell × Flow
  | 0, _, sh => (sh, .exit)
  | limit + 1, last, sh =>
    match condition sh with
    | (sh, .next) =>
      if (sh.status == 0) == expected then
        match body sh with
        | (sh, flow) =>
          match afterBody flow with
          | .again => repeatWhile expected condition body limit sh.status sh
          | .done flow => (sh, flow)
      else
        (sh.withStatus last, .next)
    | (sh, flow) =>
      match afterBody flow with
      | .again => repeatWhile expected condition body limit last sh
      | .done flow => (sh, flow)

/- Carry out a body for each word. -/
def forEach (name : String) (body : Shell → Shell × Flow) :
    Int → List String → Shell → Shell × Flow
  | last, [], sh => (sh.withStatus last, .next)
  | _, word :: rest, sh =>
    let sh := sh.assign name word
    if sh.isBroken then (sh, .exit)
    else
      match body sh with
      | (sh, flow) =>
        match afterBody flow with
        | .again => forEach name body sh.status rest sh
        | .done flow => (sh, flow)

/- Carry out commands one after another. -/
def inOrder (run : Script → Shell → Shell × Flow) :
    List Script → Shell → Shell × Flow
  | [], sh => (sh, .next)
  | command :: rest, sh =>
    match run command sh with
    | (sh, .next) => inOrder run rest sh
    | (sh, flow) => (sh, flow)

/- End the shell if a command has failed that must not fail. -/
def checked : Shell × Flow → Shell × Flow
  | (sh, .next) =>
    if sh.has 'e' && !sh.isTested && sh.status != 0 then (sh, .exit)
    else (sh, .next)
  | ended => ended

/- Carry out a command whose status is asked for. -/
def tested (run : Script → Shell → Shell × Flow) (script : Script)
    (sh : Shell) : Shell × Flow :=
  let (after, flow) := run script { sh with isTested := true }
  ({ after with isTested := sh.isTested }, flow)

/- Carry out a part of a loop. -/
def inLoop (run : Script → Shell → Shell × Flow) (script : Script)
    (sh : Shell) : Shell × Flow :=
  let (after, flow) := run script { sh with loops := sh.loops + 1 }
  ({ after with loops := sh.loops }, flow)

/- Whether one of the patterns of a case matches a text. -/
def caseMatches (capture : Capture) (text : String) :
    Shell → List RawWord → Bool × Shell
  | sh, [] => (false, sh)
  | sh, raw :: rest =>
    let (glyphs, sh) := expandWord capture sh raw
    if Pattern.matches? glyphs text then (true, sh)
    else caseMatches capture text sh rest

------------------------------------------------------------
-- Simple Commands
------------------------------------------------------------

/- What commands are carried out with. -/
structure Means where
  run : Script → Shell → Shell × Flow
  capture : Capture
  /- Start a program. -/
  start : Shell → String → List String → Shell

/- A command that is found without functions, and its words. -/
structure Found where
  /- It stands behind `command`. -/
  isPlain : Bool
  words : List String

/- Look behind words that only say how a command is found. -/
def found : Nat → Bool → List String → Found
  | 0, isPlain, words => ⟨isPlain, words⟩
  | fuel + 1, isPlain, words =>
    match words with
    | "command" :: first :: rest =>
      match first.toList with
      | ['-', '-'] =>
        if rest.isEmpty then ⟨isPlain, words⟩ else found fuel true rest
      | '-' :: 'p' :: letters =>
        if letters.all (· == 'p') && !rest.isEmpty then
          found fuel true ("command" :: rest)
        else ⟨isPlain, words⟩
      | '-' :: _ :: _ => ⟨isPlain, words⟩
      | _ => found fuel true (first :: rest)
    | words => ⟨isPlain, words⟩

/- Show a command before it is carried out. -/
def traced (means : Means) (sink : Sink) (values : List (String × String))
    (words : List String) (sh : Shell) : Shell :=
  if sh.has 'x' then
    let raw := ((sh.valueOf? "PS4").getD "").toList
    let (front, _) := expandFrom means.capture (2 * raw.length + 64)
      .quoted (sh.switch false 'x') raw
    let shown := values.map (fun (name, value) => name ++ "=" ++ value)
    sh.writeTo sink (RawByte.encode
      (Glyph.text front ++ Text.joinWith " " (shown ++ words) ++ "\n"))
  else sh

/- Carry out a function. -/
def callFunction (means : Means) (body : Script) (args : List String)
    (sh : Shell) : Shell × Flow :=
  let (after, flow) := means.run body
    { sh with
      params := args
      saved := []
      depth := sh.depth + 1
      loops := 0
      optionsRead := (1, 0) }
  ({ after.restoreSaved sh.saved with
      params := sh.params
      depth := sh.depth
      loops := sh.loops
      optionsRead := sh.optionsRead },
    if flow == .leaveFunction then .next else flow)

/- Carry out a file in the same shell. -/
def source (means : Means) (args : List String) (sh : Shell) :
    Shell × Flow :=
  let named := { sh with speaker := some "." }
  match args with
  | [] => (sh.withStatus 0, .next)
  | name :: _ =>
    let place? :=
      if name.contains '/' then some name
      else
        ((Text.splitAt ':' ((sh.valueOf? "PATH").getD
          defaultSearchPath)).map
          (fun directory =>
            if directory.isEmpty then name
            else directory ++ "/" ++ name)).find?
          (sh.world.files.isFile sh.cwd)
    match place? with
    | none => (named.breakOff (name ++ ": not found"), .next)
    | some place =>
      match Tools.readFile sh.world sh.cwd place with
      | .ok content =>
        let (after, flow) := runSource means.run
          { sh with speaker := some place } (RawByte.decode content).toList
        (after, if flow == .leaveFunction then .next else flow)
      | .error why =>
        if why == "Is a directory" then (sh.withStatus 0, .next)
        else
          (named.breakOff ("cannot open " ++ place ++ ": "
            ++ redirectAll.shortReason why), .next)

/- Carry out a command that is built in or a program. -/
def invoke (means : Means) (name : String) (args : List String)
    (sh : Shell) : Shell × Flow :=
  if name == "eval" then
    runSource means.run { sh with speaker := some name }
      (Text.joinWith " " args).toList
  else if name == "." then
    source means args sh
  else if name == "exec" then
    match args with
    | [] => (sh.withStatus 0, .next)
    | name :: args =>
      (means.start { sh with speaker := some "exec", traps := [] } name args,
        .exit)
  else
    match sh.builtin? name args with
    | some ended => ended
    | none => (means.start sh name args, .next)

/- The shell after a redirection that could not be made. -/
def unredirected (sh failed : Shell) (isFatal : Bool) : Shell × Flow :=
  if failed.isBroken || isFatal then (sh.afterChild failed, .exit)
  else checked (sh.afterChild failed, .next)

/- The shell after a command whose streams were redirected. -/
def reconnected (sh after : Shell) : Shell :=
  { after with
    sinks := sh.sinks
    inputs := sh.inputs }

/- Carry out a simple command. -/
def simple (means : Means) (raws : List RawWord)
    (redirections : List Redirection) (sh : Shell) : Shell × Flow :=
  let (assignments, raws) := splitAssignments raws
  let (words, sh) :=
    commandFields means.capture [] { sh with captured := 0 } raws
  if sh.isBroken then (sh, .exit) else
  let command := found (words.length + 1) false words
  let name := command.words.head?.getD ""
  let args := command.words.drop 1
  let isFatal := isSpecial name && !command.isPlain
  match redirectAll means.capture sh redirections with
  | (none, failed) => unredirected sh failed isFatal
  | (some inner, _) =>
    let (values, inner) := assignAll means.capture inner assignments
    if inner.isBroken then (reconnected sh inner, .exit) else
    let inner := traced means (sh.sink 2) values words inner
    let names := assignments.map Prod.fst
    let plain : Bool := command.isPlain
    let body? := if plain || Grammar.specialBuiltins.contains name then none
      else inner.functions.lookup name
    match words, body? with
    | [], _ =>
      checked (reconnected sh
        (inner.withStatus inner.captured), .next)
    | _, some body =>
      let (after, flow) := callFunction means body args
        (names.foldl exportVariable inner)
      checked (restore sh (reconnected sh after) names, flow)
    | _, none =>
      let (after, flow) := invoke means name args
        (if isFatal then inner else names.foldl exportVariable inner)
      let after := { after with speaker := inner.speaker }
      let after :=
        if name == "exec" && args.isEmpty then after
        else reconnected sh after
      let after := if isFatal then after else restore sh after names
      if flow == .next && after.isBroken then
        if isFatal then (after, .exit)
        else checked ({ after with isBroken := false }, .next)
      else checked (after, flow)

------------------------------------------------------------
-- The Shell As A Program
------------------------------------------------------------

/-
  The path of the working directory: the one that is handed
  on, if it leads there.
-/
def startDirectory (world : World) (start : Start) : Path :=
  match start.env.lookup "PWD" with
  | some path =>
    if Path.isAbsolute path
        && world.files.directory? [] path == some start.cwd then
      path
    else
      start.cwd.toPath
  | none => start.cwd.toPath

/- The variables that every shell has, with what they are at first. -/
def initialVariables : List (String × String) :=
  [ ("IFS", " \t\n"), ("OPTIND", "1") ]

/- Variables that are set where the environment has none. -/
def fallbackVariables : List (String × String) :=
  [ ("PATH",
      "/usr/local/sbin:/usr/local/bin:/usr/sbin:/usr/bin:/sbin:/bin"),
    ("PS1", "# "), ("PS2", "> "), ("PS4", "+ ") ]

/- A shell in which a script is started. -/
def fresh (world : World) (start : Start) : Shell :=
  let directory := startDirectory world start
  let env : List (String × String) :=
    (start.env.filter (fun v => Script.isName v.1.toList)).foldl
      (fun env (name, value) => putVariable name value env) []
  let vars := initialVariables.foldl
    (fun vars (name, value) => putVariable name value vars)
    (env ++ fallbackVariables.filter
      (fun v => (env.lookup v.1).isNone))
  let shell : Shell :=
    { world
      cwd := start.cwd
      directory
      vars
      exported := (env.map Prod.fst).filter (· != "IFS")
      fixed := []
      functions := []
      shortcuts := []
      name := start.name
      speaker := none
      params := []
      line := 0
      status := 0
      captured := 0
      options := []
      isTested := false
      isBroken := false
      loops := 0
      depth := 0
      saved := []
      traps := []
      trapStatus := none
      pending := []
      background := none
      optionsRead := (1, 0)
      mask := 18
      inputs := [(0, 0)]
      supplies := [(0, ⟨start.stdin, start.isSeekable⟩)]
      sinks := [(1, .outside false), (2, .outside true)]
      buffers := []
      nextBuffer := 1
      printed := [] }
  (shell.setVariable "PWD" directory).exportVariable "PWD"

/- What a shell leaves behind. -/
def leave : Shell × Flow → Ran
  | (sh, flow) =>
    { world := sh.world
      code :=
        if flow == .killed then none else some (processStatus sh.status)
      printed := sh.printed.reverse
      left? := some sh.stdin }

/-
  The shell as a program, which takes its script from an
  argument, from a file or from the standard input.
-/
def asProgram (run : Script → Shell → Shell × Flow)
    (world : World) (start : Start) : Ran :=
  let sh := fresh world start
  match switchOptions true (start.args.length + 1) sh false start.args with
  | .error why => refuse sh why
  | .ok read =>
    let sh := read.shell
    match read.hasScript, read.rest with
    | true, [] => refuse sh "-c requires an argument"
    | true, [text] => carryOut sh text.toList
    | true, text :: name :: params =>
      carryOut { sh with name, params } text.toList
    | false, [] =>
      carryOut ((sh.switch true 's').keepUnread [])
        (RawByte.decode start.stdin).toList
    | false, file :: params =>
      if sh.has 's' then
        carryOut ({ sh with params := file :: params }.keepUnread [])
          (RawByte.decode start.stdin).toList
      else
        match Tools.readFile world start.cwd file with
        | .ok content =>
          carryOut { sh with name := file, params }
            (RawByte.decode content).toList
        | .error why =>
          if why == "Is a directory" then Ran.silent world 0
          else
            refuse sh ("cannot open " ++ file ++ ": "
              ++ redirectAll.shortReason why)
where
  /- Complain before anything has been carried out. -/
  refuse (sh : Shell) (why : String) : Ran :=
    leave (sh.breakOff why, .exit)
  /- Carry out a script, and then what is left for the end. -/
  carryOut (sh : Shell) (text : List Char) : Ran :=
    leave (finished run (runSource run { sh with line := 1 } text))

------------------------------------------------------------
-- Evaluation
------------------------------------------------------------

/- Carry out a command. -/
def eval : Nat → Script → Shell → Shell × Flow
  | 0, _, sh => (sh.withStatus 2, .exit)
  | depth + 1, script, sh =>
    if sh.has 'n' then (sh, .next) else
    let run : Script → Shell → Shell × Flow := eval depth
    let capture : Capture := fun sh text =>
      let (child, id) := sh.collect
      let (child, _) := inChild run (fun sh => runSource run sh text) child
      ({ sh.afterChild child with
          status := sh.status
          captured := child.status }, child.collected id)
    let means : Means :=
      { run, capture, start := startProgram (asProgram run) depth }
    match script with
    | .nothing => (sh.withStatus 0, .next)
    | .block [] => (sh.withStatus 0, .next)
    | .block commands => inOrder run commands sh
    | .background command =>
      let (child, _) :=
        inChild run (run command) ({ sh with isTested := false }.feed 0 ⟨[], false⟩)
      ({ (sh.afterChild child).withStatus 0 with
          background := some child.status }, .next)
    | .negate command =>
      let (sh, flow) := tested run command sh
      (sh.withStatus (if sh.status == 0 then 1 else 0), flow)
    | .andThen first second =>
      match tested run first sh with
      | (sh, .next) => if sh.status == 0 then run second sh else (sh, .next)
      | (sh, flow) => (sh, flow)
    | .orElse first second =>
      match tested run first sh with
      | (sh, .next) => if sh.status == 0 then (sh, .next) else run second sh
      | (sh, flow) => (sh, flow)
    | .pipe first second =>
      let (child, id) := sh.collect
      let (child, _) := inChild run (run first) child
      let middle := sh.afterChild child
      let (last, _) := inChild run (run second)
        ({ middle with status := sh.status }.feed 0
          ⟨child.collected id, false⟩)
      checked
        (middle.afterChild last, .next)
    | .branch condition yes no =>
      match tested run condition sh with
      | (sh, .next) => if sh.status == 0 then run yes sh else run no sh
      | (sh, flow) => (sh, flow)
    | .loop expected condition body =>
      repeatWhile expected (inLoop (tested run) condition) (inLoop run body)
        loopLimit 0 sh
    | .each name words body =>
      let (words, sh) := match words with
        | some words => fields capture sh words
        | none => (sh.params, sh)
      if sh.isBroken then (sh, .exit)
      else forEach name (inLoop run body) 0 words sh
    | .choose raw cases =>
      let (text, sh) := oneText capture sh raw
      let rec pick : Shell → List (List RawWord × Script) → Shell × Flow
        | sh, [] => (sh.withStatus 0, .next)
        | sh, (raws, body) :: rest =>
          match caseMatches capture text sh raws with
          | (true, sh) => run body sh
          | (false, sh) => pick sh rest
      if sh.isBroken then (sh, .exit) else pick sh cases
    | .subshell command =>
      let (child, flow) := inChild run (run command) sh
      checked
        (sh.afterChild child, if flow == .killed then .killed else .next)
    | .define name body =>
      ({ sh with
          functions :=
            (name, body) :: sh.functions.filter (fun f => f.1 != name)
        }.withStatus 0, .next)
    | .redirect line command redirections =>
      match redirectAll capture { sh with line } redirections with
      | (none, failed) => unredirected sh failed false
      | (some inner, _) =>
        let (after, flow) := run command inner
        (reconnected sh after, flow)
    | .simple line raws redirections =>
      attended run (simple means raws redirections { sh with line })

/- How deep commands may be nested. -/
def depthLimit : Nat := 400

/- The shell as a program. -/
def program (world : World) (start : Start) : Ran :=
  asProgram (eval depthLimit) world start

end Shell

end Sandbox

end TreeLint
