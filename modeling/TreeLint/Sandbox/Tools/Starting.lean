import TreeLint.Sandbox.Tools.Finding

/-
  Programs that start programs.

  Key definitions include:
    * `Tools.xargs`
    * `Tools.timeout`
    * `Tools.starters`

  A command is put together from words that were given and from
  words that were read.  What it prints comes out in its place.
-/

------------------------------------------------------------
-- Failures To Start
------------------------------------------------------------

namespace TreeLint

namespace Sandbox

namespace Tools

/- The reason why a program was not started, and the status for it. -/
def startFailure : LaunchError → String × Int
  | .notFound => ("No such file or directory", 127)
  | .notAllowed => ("Permission denied", 126)
  | .tooManyLinks => ("Too many levels of symbolic links", 126)
  | .noFormat => ("Exec format error", 126)
  | .tooLong => ("Argument list too long", 126)

/- Start a command in place of the program itself. -/
def become (launch : Find.Launch) (world : World) (start : Start)
    (complaint : String → String) (words : List String) : Ran :=
  match words with
  | [] => Ran.silent world 0
  | name :: args =>
    match launch world { start with name, args } with
    | .ok ran => ran
    | .error error =>
      let (why, status) := startFailure error
      Ran.complaining world status (complaint name ++ ": " ++ why)

------------------------------------------------------------
-- Words That Are Read
------------------------------------------------------------

/- A word that is read, and whether its line ends behind it. -/
structure ReadWord where
  word : Chars
  endsLine : Bool
deriving DecidableEq, Repr

/- Where the reading of words has come to. -/
structure WordReader where
  word? : Option Chars
  quote? : Option Char
  words : List ReadWord

/- The text up to the word that ends it. -/
def upToEnd (ending? : Option Chars) : List ReadWord → List ReadWord
  | [] => []
  | w :: rest =>
    if ending? == some w.word then [] else w :: upToEnd ending? rest

/- The words between blanks; quotes and backslashes are taken off. -/
def quotedWords : WordReader → Chars → Except String (List ReadWord)
  | reader, [] =>
    match reader.quote? with
    | some q =>
      .error ("xargs: unmatched "
        ++ (if q == '"' then "double" else "single")
        ++ " quote; by default quotes are special to xargs unless you use "
        ++ "the -0 option")
    | none =>
      let last : List ReadWord :=
        reader.word?.toList.map fun (w : Chars) => ⟨w.reverse, true⟩
      .ok (last ++ reader.words).reverse
  | reader, c :: rest =>
    let add (c : Char) : WordReader :=
      { reader with word? := some (c :: reader.word?.getD []) }
    let finish (endsLine : Bool) : WordReader :=
      match reader.word?, reader.words, endsLine with
      | some w, words, _ =>
        { reader with word? := none, words := ⟨w.reverse, endsLine⟩ :: words }
      | none, last :: words, true =>
        { reader with words := { last with endsLine := true } :: words }
      | none, _, _ => reader
    match reader.quote? with
    | some q =>
      if c == q then quotedWords { reader with quote? := none } rest
      else if c == '\n' then quotedWords reader []
      else quotedWords (add c) rest
    | none =>
      if c == '"' || c == '\'' then
        quotedWords { reader with
          quote? := some c, word? := some (reader.word?.getD []) } rest
      else if c == '\\' then
        match rest with
        | d :: rest => quotedWords (add d) rest
        | [] => quotedWords reader []
      else if c == '\n' then quotedWords (finish true) rest
      else if Octet.isBlank c then
        -- A blank at the end of a line makes the next line go with it.
        let isAtEnd := rest.head? == some '\n'
        if isAtEnd then quotedWords (finish false) (rest.drop 1)
        else quotedWords (finish false) rest
      else quotedWords (add c) rest
termination_by _ text => text.length

/- The lines of a text as words of their own; quotes are taken off. -/
def lineWords (text : Chars) : Except String (List ReadWord) := do
  let lines ← (linesOf text).mapM fun line => do
    let shown := line.dropWhile Octet.isBlank
    let words ← quotedWords ⟨none, none, []⟩
      (shown.map fun c => if c == ' ' then '\x01' else c)
    .ok (words.map fun w =>
      { w with word := w.word.map fun c => if c == '\x01' then ' ' else c })
  .ok lines.flatten

------------------------------------------------------------
-- Commands From Words
------------------------------------------------------------

/- Groups of so many things. -/
def chunks {α : Type} (size : Nat) : Nat → List α → List (List α)
  | 0, _ => []
  | _, [] => []
  | fuel + 1, things =>
    things.take size :: chunks size fuel (things.drop size)

/- Groups of words that make up so many lines. -/
def lineChunks (size : Nat) : Nat → List ReadWord → List ReadWord →
    List (List ReadWord)
  | _, group, [] => if group.isEmpty then [] else [group.reverse]
  | n, group, w :: rest =>
    if w.endsLine && n + 1 == size then
      (w :: group).reverse :: lineChunks size 0 [] rest
    else
      lineChunks size (if w.endsLine then n + 1 else n) (w :: group) rest

/- The options of the program that makes commands. -/
def xargsOptions : OptionTable :=
  ⟨"0ioprtx\x01", "aEILndPs\x02",
    [ ("null", '0'), ("arg-file", 'a'), ("delimiter", 'd'),
      ("eof", 'E'), ("replace", 'I'), ("max-lines", 'L'),
      ("max-args", 'n'), ("open-tty", 'o'), ("max-procs", 'P'),
      ("interactive", 'p'), ("no-run-if-empty", 'r'),
      ("max-chars", 's'), ("show-limits", '\x01'), ("verbose", 't'),
      ("exit", 'x'), ("process-slot-var", '\x02') ]⟩

/- A character as an option gives it. -/
def givenMark (text : String) : Char :=
  match text.toList with
  | ['\\', 'n'] => '\n'
  | ['\\', 't'] => '\t'
  | ['\\', '0'] => '\x00'
  | c :: _ => c
  | [] => '\n'

/- A word as a shell would want it. -/
def shellWord (word : String) : String :=
  let isPlain := !word.isEmpty && word.toList.all fun c =>
    c.isAlphanum || "%+,-./:=@_".toList.contains c
  if isPlain then word else "'" ++ word ++ "'"

/- Start one command after another until one says to stop. -/
def startAll (launch : Find.Launch) (start : Start) (isLoud : Bool) :
    World → Report → List (List String) → World × Report
  | world, report, [] => (world, report)
  | world, report, words :: rest =>
    let report := if isLoud then
        report.remark (String.intercalate " " (words.map shellWord))
      else report
    match words with
    | [] => (world, report)
    | name :: args =>
      match launch world { start with name, args, stdin := [] } with
      | .error error =>
        let (why, status) := startFailure error
        (world, report.complain status ("xargs: " ++ name ++ ": " ++ why))
      | .ok ran =>
        let report := { report with
          printed := ran.printed.reverse ++ report.printed }
        match ran.code with
        | some 0 => startAll launch start isLoud ran.world report rest
        | some 255 =>
          (ran.world, report.complain 124
            ("xargs: " ++ name ++ ": exited with status 255; aborting"))
        | some _ =>
          startAll launch start isLoud ran.world
            { report with status := max 123 report.status } rest
        | none =>
          (ran.world, report.complain 125
            ("xargs: " ++ name ++ ": terminated by signal 15"))

/- Make commands from words that are read, and start them. -/
def xargs (launch : Find.Launch) (world : World) (start : Start) : Ran :=
  let (front, command) := Options.leading xargsOptions start.args
  let fail (why : String) : Ran := Ran.complaining world 1 why
  let usage (why : String) : Ran :=
    fail ("xargs: " ++ why ++ "\nTry 'xargs --help' for more information.")
  match Options.read xargsOptions front with
  | .error why => usage why
  | .ok options =>
    let command := if command.isEmpty then ["echo"] else command
    let pattern? := (options.value? 'I').orElse fun _ =>
      if options.has 'i' then some "\x7b\x7d" else none
    let text := match options.value? 'a' with
      | some file => readText world start.cwd file
      | none => .ok (Octet.decode start.stdin)
    let mark? := if options.has '0' then some '\x00'
      else (options.value? 'd').map givenMark
    let count (letter : Char) : Except String (Option Nat) :=
      match options.value? letter with
      | none => .ok none
      | some value =>
        match Numeral.natural? 10 value.toList with
        | some (n + 1) => .ok (some (n + 1))
        | some 0 =>
          .error ("value " ++ value ++ " for -" ++ String.singleton letter
            ++ " option should be >= 1")
        | none =>
          .error ("invalid number \"" ++ value ++ "\" for -"
            ++ String.singleton letter ++ " option")
    match text, count 'n', count 'L' with
    | .error unread, _, _ =>
      fail ("xargs: Cannot open input file " ++ quoted
        ((options.value? 'a').getD "") ++ ": " ++ unread.why)
    | _, .error why, _ => usage why
    | _, _, .error why => usage why
    | .ok text, .ok most?, .ok lines? =>
      let read : Except String (List ReadWord) := match mark?, pattern? with
        | some mark, _ =>
          .ok ((linesBy mark text).map fun w => ⟨w, true⟩)
        | none, some _ => lineWords text
        | none, none => quotedWords ⟨none, none, []⟩ text
      let left? := if (options.value? 'a').isSome then none else some []
      match read with
      | .error why => { fail why with left? }
      | .ok words =>
        let words := if mark?.isSome then words
          else upToEnd ((options.value? 'E').map Octet.ofText) words
        let text (w : ReadWord) : String := Octet.toText w.word
        let last := (options.letters.filter fun o =>
          o.1 == 'n' || o.1 == 'L' || o.1 == 'I').getLast?.map Prod.fst
        let commands : List (List String) :=
          match pattern?, last with
          | some pattern, some 'I' | some pattern, none =>
            words.map fun w =>
              command.map fun word => word.replace pattern (text w)
          | _, _ =>
            let groups := match most?, lines?, last with
              | some n, _, some 'n' => chunks n (words.length + 1) words
              | _, some n, some 'L' => lineChunks n 0 [] words
              | some n, _, _ => chunks n (words.length + 1) words
              | _, some n, _ => lineChunks n 0 [] words
              | none, none, _ => [words]
            let groups := if words.isEmpty then
                if options.has 'r' then [] else [[]]
              else groups
            groups.map fun group => command ++ group.map text
        let (world, report) :=
          startAll launch start (options.has 't') world .new commands
        report.finish world left?

------------------------------------------------------------
-- Conditions Of Running
------------------------------------------------------------

/- A time in thousandths of a second. -/
def duration? (text : String) : Option Nat :=
  let chars := text.toList
  let number := chars.takeWhile fun c => Numeral.isDigit c || c == '.'
  let factor? : Option Nat := match chars.drop number.length with
    | [] => some 1
    | ['s'] => some 1
    | ['m'] => some 60
    | ['h'] => some 3600
    | ['d'] => some 86400
    | _ => none
  match number.span (· != '.'), factor? with
  | (whole, fraction), some factor =>
    let fraction := fraction.drop 1
    if (whole ++ fraction).isEmpty || !fraction.all Numeral.isDigit then none
    else
      let thousandths := (fraction ++ ['0', '0', '0']).take 3
      match Numeral.natural? 10 (whole ++ thousandths) with
      | some n => some (n * factor)
      | none => none
  | _, none => none

/- Start a command that may take only so long. -/
def timeout (launch : Find.Launch) (world : World) (start : Start) : Ran :=
  let table : OptionTable :=
    ⟨"fpv", "ks",
      [("foreground", 'f'), ("preserve-status", 'p'), ("kill-after", 'k'),
        ("signal", 's'), ("verbose", 'v')]⟩
  let usage (why : String) : Ran :=
    Ran.complaining world 125
      ((if why.isEmpty then "" else "timeout: " ++ why ++ "\n")
        ++ "Try 'timeout --help' for more information.")
  let (front, words) := Options.leading table start.args
  match Options.read table front, words with
  | .error why, _ => usage why
  | _, time :: command :: args =>
    match duration? time with
    | none => usage ("invalid time interval " ++ quoted time)
    | some limit =>
      let sleeps := if command == "sleep" then
          (args.filterMap duration?).foldl (· + ·) 0
        else 0
      if limit != 0 && limit < sleeps then Ran.silent world 124
      else
        become launch world start
          (fun name => "timeout: failed to run command " ++ quoted name)
          (command :: args)
  | _, _ => usage ""

/- Start a command that nothing hangs up. -/
def nohup (launch : Find.Launch) (world : World) (start : Start) : Ran :=
  let words := match start.args with
    | "--" :: rest => rest
    | args => args
  if words.isEmpty then
    Ran.complaining world 125 ("nohup: missing operand\n"
      ++ "Try 'nohup --help' for more information.")
  else
    become launch world start
      (fun name => "nohup: failed to run command " ++ quoted name) words

/- Start a command with another priority. -/
def nice (launch : Find.Launch) (world : World) (start : Start) : Ran :=
  let table : OptionTable := ⟨"", "n", [("adjustment", 'n')]⟩
  let (front, words) := Options.leading table start.args
  match Options.read table front with
  | .error why =>
    Ran.complaining world 125 ("nice: " ++ why
      ++ "\nTry 'nice --help' for more information.")
  | .ok _ =>
    if words.isEmpty then Ran.printing world 0 "0\n"
    else become launch world start (fun name => "nice: " ++ quoted name) words

/- Start a command with other buffers. -/
def stdbuf (launch : Find.Launch) (world : World) (start : Start) : Ran :=
  let table : OptionTable :=
    ⟨"", "ioe", [("input", 'i'), ("output", 'o'), ("error", 'e')]⟩
  let (_, words) := Options.leading table start.args
  become launch world start
    (fun name => "stdbuf: failed to run command " ++ quoted name) words

/- Start a command in a session of its own. -/
def setsid (launch : Find.Launch) (world : World) (start : Start) : Ran :=
  let table : OptionTable :=
    ⟨"cfw", "", [("ctty", 'c'), ("fork", 'f'), ("wait", 'w')]⟩
  let (_, words) := Options.leading table start.args
  become launch world start
    (fun name => "setsid: failed to execute " ++ name) words

/- The programs that start programs, by their names. -/
def starters : List (String × (Find.Launch → World → Start → Ran)) :=
  [ ("find", find),
    ("xargs", xargs),
    ("timeout", timeout),
    ("nohup", nohup),
    ("nice", nice),
    ("stdbuf", stdbuf),
    ("setsid", setsid) ]

end Tools

end Sandbox

end TreeLint
