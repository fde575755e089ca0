import TreeLint.Path.Wildcard
import TreeLint.Sandbox.Handling
import TreeLint.Sandbox.Tools.Inputs
import TreeLint.Text.Numeral
import TreeLint.Text.Regex.Reading

/-
  The program that looks for files.

  Key definitions include:
    * `Find.Test`
    * `Find.Criterion`
    * `Find.read`
    * `Find.check`
    * `Tools.find`

  An expression of tests is worked out for every file below
  some paths.  Tests may do something: they print the path,
  start a program for it or remove it.
-/

------------------------------------------------------------
-- Expressions
------------------------------------------------------------

namespace TreeLint

namespace Sandbox

namespace Find

open Tools

/- How a number is compared: it is more, less or the same. -/
structure Limit where
  order : Ordering
  n : Nat
deriving DecidableEq, Repr

/- What is asked about a file, or done with it. -/
inductive Test where
  | constant (value : Bool)
  /- The name, or the whole path, is like a pattern. -/
  | name (pattern : String) (isWhole foldsCase : Bool)
  | regex (re : Regex) (foldsCase : Bool)
  | linkName (pattern : String) (foldsCase : Bool)
  | kinds (letters : List Char)
  | isEmpty
  | size (limit : Limit) (unit : Nat)
  | age (limit : Limit)
  | links (limit : Limit)
  /- All, some or exactly these permissions. -/
  | modes (kind : Char) (bits : Nat)
  | isExecutable
  | sameFile (path : Path)
  | owner (name : String)
  | print (ending : Char)
  | printTo (file : Path)
  | printf (format : Chars)
  | execute (words : List String) (inPlace : Bool)
  | executeAll (id : Nat) (words : List String) (inPlace : Bool)
  | delete
  | prune
  | quit
deriving DecidableEq, Repr

namespace Test

/- Whether the test does something, so that nothing else is printed. -/
def isAction : Test → Bool
  | print _ => true
  | printTo _ => true
  | printf _ => true
  | execute _ _ => true
  | executeAll _ _ _ => true
  | delete => true
  | _ => false

end Test

/- Tests put together. -/
inductive Criterion where
  | test (test : Test)
  | opposite (c : Criterion)
  | both (a b : Criterion)
  | either (a b : Criterion)
  | second (a b : Criterion)
deriving DecidableEq, Repr

namespace Criterion

/- The tests in an expression. -/
def tests : Criterion → List Test
  | test t => [t]
  | opposite c => c.tests
  | both a b => a.tests ++ b.tests
  | either a b => a.tests ++ b.tests
  | second a b => a.tests ++ b.tests

end Criterion

/- How directories are gone through. -/
structure Manner where
  least : Nat
  most? : Option Nat
  /- Directories come behind what is in them. -/
  isDeepFirst : Bool
  follows : Bool
  followsFirst : Bool
  regexKind : String
deriving DecidableEq, Repr

------------------------------------------------------------
-- Reading
------------------------------------------------------------

/- The words of an expression, and what has been read of it. -/
structure Reader where
  words : List String
  manner : Manner
  /- How many programs are to be started for many files at once. -/
  batches : Nat

/- A number with a sign in front. -/
def limit? (text : Chars) : Option Limit :=
  match text with
  | '+' :: digits => (Numeral.natural? 10 digits).map (⟨.gt, ·⟩)
  | '-' :: digits => (Numeral.natural? 10 digits).map (⟨.lt, ·⟩)
  | digits => (Numeral.natural? 10 digits).map (⟨.eq, ·⟩)

/- A size with a unit behind it. -/
def size? (text : Chars) : Option (Limit × Nat) :=
  let unit : Option Nat := text.getLast?.bind fun c =>
    match c with
    | 'c' => some 1
    | 'w' => some 2
    | 'b' => some 512
    | 'k' => some 1024
    | 'M' => some 1048576
    | 'G' => some 1073741824
    | _ => none
  match unit with
  | some unit => (limit? text.dropLast).map (·, unit)
  | none => (limit? text).map (·, 512)

/- The bits of a class of users and some permissions. -/
def classBits (who : Chars) (permissions : Chars) : Nat :=
  let bits := permissions.foldl (fun bits c =>
    bits ||| (if c == 'r' then 4 else if c == 'w' then 2
      else if c == 'x' || c == 'X' then 1 else 0)) 0
  let who := if who.isEmpty || who.contains 'a' then ['u', 'g', 'o'] else who
  who.foldl (fun all c =>
    all ||| (if c == 'u' then bits * 64 else if c == 'g' then bits * 8
      else bits)) 0

/- Permissions in digits or in letters. -/
def modeBits? (text : Chars) : Option Nat :=
  match Numeral.natural? 8 text with
  | some bits => some bits
  | none =>
    (fieldsBy ',' text).foldl
      (fun bits? clause =>
        bits?.bind fun bits =>
          let who := clause.takeWhile fun c => "ugoa".toList.contains c
          match clause.drop who.length with
          | sign :: permissions =>
            if "+=-".toList.contains sign
                && permissions.all fun c => "rwxXst".toList.contains c then
              if sign == '-' then some bits
              else some (bits ||| classBits who permissions)
            else none
          | [] => none)
      (some 0)

/- A pattern whose operators of repetition need no backslash. -/
def withLooseOperators : Chars → Chars
  | '\\' :: c :: rest =>
    (if c == '+' || c == '?' then [c] else ['\\', c])
      ++ withLooseOperators rest
  | c :: rest =>
    (if c == '+' || c == '?' then ['\\', c] else [c])
      ++ withLooseOperators rest
  | [] => []

/- The expression that a pattern of paths means. -/
def regexOf (kind text : String) : Except String Regex :=
  let chars := Octet.ofText text
  let isExtended := ["posix-extended", "posix-egrep", "egrep", "awk",
    "posix-awk", "gnu-awk"].contains kind
  let chars := if isExtended || kind.startsWith "posix" || kind == "grep"
      || kind == "sed" || kind == "ed" then chars
    else withLooseOperators chars
  (Regex.read ⟨isExtended, false⟩ chars).mapError fun fault =>
    "find: failed to compile regular expression '" ++ text ++ "': "
      ++ fault.message

/- The words of a command up to its end; true if for many files. -/
def commandWords : List String → Option (List String × Bool × List String)
  | [] => none
  | ";" :: rest => some ([], false, rest)
  | "\x7b\x7d" :: "+" :: rest => some (["\x7b\x7d"], true, rest)
  | word :: rest =>
    (commandWords rest).map fun (words, isBatch, rest) =>
      (word :: words, isBatch, rest)

/- The test of a word, with what follows it. -/
def readTest (reader : Reader) (word : String) (rest : List String) :
    Except String (Test × Reader) :=
  let go (test : Test) (rest : List String) : Except String (Test × Reader) :=
    .ok (test, { reader with words := rest })
  let manner (manner : Manner) (rest : List String) :
      Except String (Test × Reader) :=
    .ok (.constant true, { reader with words := rest, manner })
  let missing : Except String (Test × Reader) :=
    .error ("find: missing argument to \x60" ++ word ++ "'")
  let withValue (use : String → List String → Except String (Test × Reader)) :
      Except String (Test × Reader) :=
    match rest with
    | value :: rest => use value rest
    | [] => missing
  let invalid (value : String) : Except String (Test × Reader) :=
    .error ("find: invalid argument \x60" ++ value ++ "' to \x60" ++ word
      ++ "'")
  let withLimit (use : Limit → Test) : Except String (Test × Reader) :=
    withValue fun value rest =>
      match limit? value.toList with
      | some limit => go (use limit) rest
      | none => invalid value
  let withDepth (use : Nat → Manner) : Except String (Test × Reader) :=
    withValue fun value rest =>
      match Numeral.natural? 10 value.toList with
      | some n => manner (use n) rest
      | none =>
        .error ("find: Expected a positive decimal integer argument to "
          ++ word ++ ", but got '" ++ value ++ "'")
  let m := reader.manner
  let command (inPlace : Bool) : Except String (Test × Reader) :=
    match commandWords rest with
    | none => missing
    | some ([], _, _) => invalid ";"
    | some (words, true, rest) =>
      .ok (.executeAll reader.batches words inPlace,
        { reader with words := rest, batches := reader.batches + 1 })
    | some (words, false, rest) => go (.execute words inPlace) rest
  match word with
  | "-name" => withValue fun v => go (.name v false false)
  | "-iname" => withValue fun v => go (.name v false true)
  | "-path" => withValue fun v => go (.name v true false)
  | "-wholename" => withValue fun v => go (.name v true false)
  | "-ipath" => withValue fun v => go (.name v true true)
  | "-iwholename" => withValue fun v => go (.name v true true)
  | "-lname" => withValue fun v => go (.linkName v false)
  | "-ilname" => withValue fun v => go (.linkName v true)
  | "-regex" => withValue fun v rest => do
    let re ← regexOf m.regexKind v
    go (.regex re false) rest
  | "-iregex" => withValue fun v rest => do
    let re ← regexOf m.regexKind v
    go (.regex re true) rest
  | "-regextype" => withValue fun v => manner { m with regexKind := v }
  | "-type" => withValue fun v rest =>
    let letters := (fieldsBy ',' v.toList).flatten
    match letters.find? fun c => !"bcdpflsD".toList.contains c with
    | some c =>
      .error ("find: Unknown argument to -type: " ++ String.singleton c)
    | none =>
      if letters.isEmpty then
        .error "find: Arguments to -type should contain at least one letter"
      else go (.kinds letters) rest
  | "-xtype" => withValue fun v => go (.kinds v.toList)
  | "-empty" => go .isEmpty rest
  | "-size" => withValue fun v rest =>
    match size? v.toList with
    | some (limit, unit) => go (.size limit unit) rest
    | none => .error ("find: Invalid argument \x60" ++ v ++ "' to -size")
  | "-mtime" => withLimit .age
  | "-atime" => withLimit .age
  | "-ctime" => withLimit .age
  | "-mmin" => withLimit .age
  | "-amin" => withLimit .age
  | "-cmin" => withLimit .age
  | "-links" => withLimit .links
  | "-newer" => withValue fun _ => go (.constant false)
  | "-perm" => withValue fun v rest =>
    let (kind, text) := match v.toList with
      | '-' :: text => ('-', text)
      | '/' :: text => ('/', text)
      | text => ('=', text)
    match modeBits? text with
    | some bits => go (.modes kind bits) rest
    | none => .error ("find: invalid mode '" ++ v ++ "'")
  | "-executable" => go .isExecutable rest
  | "-readable" => go (.constant true) rest
  | "-writable" => go (.constant true) rest
  | "-samefile" => withValue fun v => go (.sameFile v)
  | "-user" => withValue fun v => go (.owner v)
  | "-group" => withValue fun v => go (.owner v)
  | "-uid" => withLimit fun limit => .constant (limit == ⟨.eq, 0⟩)
  | "-gid" => withLimit fun limit => .constant (limit == ⟨.eq, 0⟩)
  | "-nouser" => go (.constant false) rest
  | "-nogroup" => go (.constant false) rest
  | "-true" => go (.constant true) rest
  | "-false" => go (.constant false) rest
  | "-print" => go (.print '\n') rest
  | "-print0" => go (.print '\x00') rest
  | "-fprint" => withValue fun v => go (.printTo v)
  | "-printf" => withValue fun v => go (.printf (Octet.ofText v))
  | "-exec" => command false
  | "-ok" => command false
  | "-execdir" => command true
  | "-okdir" => command true
  | "-delete" =>
    .ok (.delete,
      { reader with words := rest, manner := { m with isDeepFirst := true } })
  | "-prune" => go .prune rest
  | "-quit" => go .quit rest
  | "-maxdepth" => withDepth fun n => { m with most? := some n }
  | "-mindepth" => withDepth fun n => { m with least := n }
  | "-depth" => manner { m with isDeepFirst := true } rest
  | "-d" => manner { m with isDeepFirst := true } rest
  | "-follow" => manner { m with follows := true } rest
  | "-xdev" => manner m rest
  | "-mount" => manner m rest
  | "-daystart" => manner m rest
  | "-noleaf" => manner m rest
  | "-warn" => manner m rest
  | "-nowarn" => manner m rest
  | "-ignore_readdir_race" => manner m rest
  | word =>
    if word.startsWith "-" then
      .error ("find: unknown predicate \x60" ++ word ++ "'")
    else
      .error ("find: paths must precede expression: \x60" ++ word ++ "'")

mutual

/- Expressions of which the last one counts. -/
def readList : Nat → Reader → Except String (Criterion × Reader)
  | 0, _ => .error "find: invalid expression"
  | fuel + 1, reader => do
    let (a, reader) ← readEither fuel reader
    match reader.words with
    | "," :: rest =>
      let (b, reader) ← readList fuel { reader with words := rest }
      .ok (.second a b, reader)
    | _ => .ok (a, reader)

/- Alternatives. -/
def readEither : Nat → Reader → Except String (Criterion × Reader)
  | 0, _ => .error "find: invalid expression"
  | fuel + 1, reader => do
    let (a, reader) ← readBoth fuel reader
    match reader.words with
    | word :: rest =>
      if word == "-o" || word == "-or" then
        if rest.isEmpty then
          .error ("find: expected an expression after '" ++ word ++ "'")
        else
          let (b, reader) ← readEither fuel { reader with words := rest }
          .ok (.either a b, reader)
      else .ok (a, reader)
    | [] => .ok (a, reader)

/- Tests that must all hold. -/
def readBoth : Nat → Reader → Except String (Criterion × Reader)
  | 0, _ => .error "find: invalid expression"
  | fuel + 1, reader => do
    let (a, reader) ← readOne fuel reader
    match reader.words with
    | [] => .ok (a, reader)
    | word :: rest =>
      if ["-o", "-or", ",", ")"].contains word then .ok (a, reader)
      else
        let words := if word == "-a" || word == "-and" then rest
          else word :: rest
        if words.isEmpty then
          .error ("find: expected an expression after '" ++ word ++ "'")
        else
          let (b, reader) ← readBoth fuel { reader with words }
          .ok (.both a b, reader)

/- A single test. -/
def readOne : Nat → Reader → Except String (Criterion × Reader)
  | 0, _ => .error "find: invalid expression"
  | fuel + 1, reader => do
    match reader.words with
    | [] => .error "find: invalid expression"
    | "(" :: rest =>
      if rest.isEmpty then
        .error ("find: invalid expression; expected to find a ')' but "
          ++ "didn't see one. Perhaps you need an extra predicate after "
          ++ "'('")
      else
        let (inner, reader) ← readList fuel { reader with words := rest }
        match reader.words with
        | ")" :: rest => .ok (inner, { reader with words := rest })
        | _ =>
          .error ("find: invalid expression; I was expecting to find a ')' "
            ++ "somewhere but did not see one.")
    | ")" :: _ =>
      .error "find: invalid expression; you have too many ')'"
    | word :: rest =>
      if word == "!" || word == "-not" then
        if rest.isEmpty then
          .error ("find: expected an expression after '" ++ word ++ "'")
        else
          let (inner, reader) ← readOne fuel { reader with words := rest }
          .ok (.opposite inner, reader)
      else if ["-o", "-or", "-a", "-and", ","].contains word then
        .error ("find: invalid expression; you have used a binary operator "
          ++ quoted word ++ " with nothing before it.")
      else
        let (test, reader) ← readTest reader word rest
        .ok (.test test, reader)

end

/- Read an expression; without one every path is printed. -/
def read (manner : Manner) (words : List String) :
    Except String (Criterion × Manner) := do
  let printing : Criterion := .test (.print '\n')
  if words.isEmpty then .ok (printing, manner)
  else
    let (c, reader) ← readList (4 * words.length + 8) ⟨words, manner, 0⟩
    match reader.words with
    | ")" :: _ => .error "find: invalid expression; you have too many ')'"
    | _ =>
      .ok (if c.tests.any Test.isAction then c else .both c printing,
        reader.manner)

------------------------------------------------------------
-- Looking
------------------------------------------------------------

/- A way to start programs. -/
abbrev Launch : Type := World → Start → Except LaunchError Ran

/- A file that an expression is worked out for. -/
structure Seen where
  path : Path
  /- The path that the search started from. -/
  origin : Path
  loc : Location
  node : Node
  depth : Nat

namespace Seen

/- The name of the file. -/
def name (seen : Seen) : String :=
  match FileTree.splitLast seen.path with
  | some (_, name) => name
  | none => if Path.isAbsolute seen.path then "/" else seen.path

/- The path to the directory of the file. -/
def directory (seen : Seen) : Path :=
  match FileTree.splitLast seen.path with
  | some (directory, _) => if seen.path.contains '/' then directory else "."
  | none => if Path.isAbsolute seen.path then "" else "."

/- The letter for the kind of the file. -/
def kind (seen : Seen) : Char :=
  match seen.node with
  | .directory => 'd'
  | .file _ _ => 'f'
  | .link _ => 'l'
  | .pipe => if seen.loc.head? == some "dev" then 'c' else 'p'

/- The permissions of the file. -/
def modes (seen : Seen) : Nat :=
  match seen.node with
  | .directory => 0o755
  | .file _ isExecutable => if isExecutable then 0o755 else 0o644
  | .link _ => 0o777
  | .pipe => 0o644

/- The size of the file. -/
def size (seen : Seen) : Nat :=
  match seen.node with
  | .directory => 4096
  | .file content _ => content.length
  | .link target => FileTree.byteCount target
  | .pipe => 0

/- The part of the path below the one the search started from. -/
def below (seen : Seen) : Path :=
  String.ofList
    (((seen.path.toList.drop seen.origin.length)).dropWhile (· == '/'))

end Seen

/- What a search has led to so far. -/
structure Hunt where
  world : World
  report : Tools.Report
  isPruned : Bool
  hasQuit : Bool
  /- The paths that wait for programs that take many. -/
  waiting : List (Nat × List String × Bool × List Seen)

namespace Hunt

/- Add what a program has printed. -/
def add (hunt : Hunt) (ran : Ran) : Hunt :=
  { hunt with
    world := ran.world
    report := { hunt.report with
      printed := ran.printed.reverse ++ hunt.report.printed } }

end Hunt

/- Whether a number is as a limit says. -/
def Limit.holds (limit : Limit) (n : Nat) : Bool :=
  compare n limit.n == limit.order

/- A format filled in for a file. -/
def filled (files : FileTree) (seen : Seen) : Nat → Chars → Chars
  | 0, _ => []
  | _, [] => []
  | fuel + 1, '\\' :: c :: rest =>
    let put (c : Char) : Chars := c :: filled files seen fuel rest
    match c with
    | 'n' => put '\n'
    | 't' => put '\t'
    | '0' => put '\x00'
    | '\\' => put '\\'
    | 'a' => put '\x07'
    | 'b' => put '\x08'
    | 'f' => put '\x0c'
    | 'r' => put '\r'
    | 'v' => put '\x0b'
    | 'c' => []
    | c => '\\' :: put c
  | fuel + 1, '%' :: rest =>
    let flags := rest.takeWhile fun c => c == '-' || c == '0' || c == ' '
    let behind := rest.drop flags.length
    let number := behind.takeWhile Numeral.isDigit
    let width := (Numeral.natural? 10 number).getD 0
    match behind.drop number.length with
    | [] => ['%']
    | c :: rest =>
      let put (text : Chars) : Chars :=
        (if flags.contains '-' then padRight width text
          else if flags.contains '0' then
            List.replicate (width - text.length) '0' ++ text
          else padLeft width text) ++ filled files seen fuel rest
      let text (text : String) : Chars := put (Octet.ofText text)
      match c with
      | '%' => put ['%']
      | 'p' => text seen.path
      | 'f' => text seen.name
      | 'h' => text seen.directory
      | 'P' => text seen.below
      | 'H' => text seen.origin
      | 'd' => put (Tools.digits seen.depth)
      | 'y' => put [seen.kind]
      | 'Y' =>
        put [match files.resolved? [] seen.loc.toPath with
          | some (loc, node) => ({ seen with loc, node }).kind
          | none => 'N']
      | 's' => put (Tools.digits seen.size)
      | 'm' => put (Nat.toDigits 8 seen.modes)
      | 'l' =>
        match seen.node with
        | .link target => text target
        | _ => put []
      | 'n' => put ['1']
      | 'u' => text "root"
      | 'g' => text "root"
      | 'U' => put ['0']
      | 'G' => put ['0']
      | 'M' =>
        put ((if seen.kind == 'f' then '-' else seen.kind)
          :: permissionText seen.modes)
      | c => '%' :: c :: filled files seen fuel rest
  | fuel + 1, c :: rest => c :: filled files seen fuel rest
where
  /- Permissions in letters. -/
  permissionText (bits : Nat) : Chars :=
    (List.range 9).map fun i =>
      if bits.testBit (8 - i) then ("rwx".toList[i % 3]?).getD '-' else '-'

/- A word of a command with the path in it. -/
def withPath (path : Path) (word : String) : String :=
  word.replace "\x7b\x7d" path

/- Start a program for a file; it must end well. -/
def startFor (launch : Launch) (start : Start) (hunt : Hunt)
    (words : List String) (cwd : Location) : Bool × Hunt :=
  match words with
  | [] => (false, hunt)
  | name :: args =>
    match launch hunt.world
        { start with name, args, cwd, stdin := start.stdin } with
    | .ok ran => (ran.code == some 0, hunt.add ran)
    | .error error =>
      let why := match error with
        | .notFound => "No such file or directory"
        | .notAllowed => "Permission denied"
        | _ => "Exec format error"
      (false, { hunt with
        report := hunt.report.remark ("find: " ++ quoted name ++ ": " ++ why) })

/- The directory of a file, and the file as it is named there. -/
def placed (seen : Seen) : Location × Path :=
  (seen.loc.dropLast, if seen.loc.isEmpty then "/" else "./" ++ seen.name)

/- Work a test out for a file. -/
def Test.check (launch : Launch) (start : Start) (seen : Seen)
    (hunt : Hunt) (test : Test) : Bool × Hunt :=
  let files := hunt.world.files
  let print (text : Chars) : Bool × Hunt :=
    (true, { hunt with report := hunt.report.print text })
  match test with
  | .constant value => (value, hunt)
  | .name pattern isWhole foldsCase =>
    ((Wildcard.mk false foldsCase).fits pattern
      (if isWhole then seen.path else seen.name), hunt)
  | .regex re foldsCase =>
    let s : Regex.Subject :=
      ⟨(Octet.ofText seen.path).toArray, foldsCase, false⟩
    ((re.matchesAt s 0).any (fun found => found.stop == s.chars.size), hunt)
  | .linkName pattern foldsCase =>
    (match seen.node with
      | .link target => (Wildcard.mk false foldsCase).fits pattern target
      | _ => false, hunt)
  | .kinds letters => (letters.contains seen.kind, hunt)
  | .isEmpty =>
    (match seen.node with
      | .directory => files.isEmptyAt seen.loc
      | .file content _ => content.isEmpty
      | _ => false, hunt)
  | .size limit unit =>
    (limit.holds ((seen.size + unit - 1) / unit), hunt)
  | .age limit => (limit.holds 0, hunt)
  | .links limit => (limit.holds 1, hunt)
  | .modes kind bits =>
    (if kind == '-' then seen.modes &&& bits == bits
      else if kind == '/' then bits == 0 || seen.modes &&& bits != 0
      else seen.modes == bits, hunt)
  | .isExecutable =>
    (match seen.node with
      | .directory => true
      | .file _ mayRun => mayRun
      | .link _ =>
        match files.resolved? [] seen.loc.toPath with
        | some (_, .file _ mayRun) => mayRun
        | some (_, .directory) => true
        | _ => false
      | .pipe => false, hunt)
  | .sameFile path =>
    ((files.locateEntry start.cwd path).toOption == some seen.loc, hunt)
  | .owner who => (who == "root" || who == "0", hunt)
  | .print ending => print (Octet.ofText seen.path ++ [ending])
  | .printTo file =>
    let written := files.write? start.cwd file fun old =>
      old ++ RawByte.encode (seen.path ++ "\n")
    (true, match written with
      | .ok files => { hunt with world := hunt.world.withFiles files }
      | .error _ => hunt)
  | .printf format =>
    print (filled files seen (format.length + 1) format)
  | .execute words inPlace =>
    let (cwd, path) := if inPlace then placed seen
      else (start.cwd, seen.path)
    startFor launch start hunt (words.map (withPath path)) cwd
  | .executeAll id words inPlace =>
    let waiting := match hunt.waiting.find? fun w => w.1 == id with
      | some _ => hunt.waiting.map fun w =>
        if w.1 == id then (w.1, w.2.1, w.2.2.1, w.2.2.2 ++ [seen]) else w
      | none => hunt.waiting ++ [(id, words, inPlace, [seen])]
    (true, { hunt with waiting })
  | .delete =>
    if seen.name == "." then (true, hunt)
    else
      match seen.node with
      | .directory =>
        if files.isEmptyAt seen.loc then
          (true, { hunt with
            world := hunt.world.withFiles (files.erase seen.loc) })
        else
          (false, { hunt with
            report := hunt.report.complain 1
              ("find: cannot delete " ++ quoted seen.path
                ++ ": Directory not empty") })
      | _ =>
        (true, { hunt with
          world := hunt.world.withFiles (files.erase seen.loc) })
  | .prune => (true, { hunt with isPruned := true })
  | .quit => (true, { hunt with hasQuit := true })

/- Work an expression out for a file. -/
def check (launch : Launch) (start : Start) (seen : Seen) :
    Criterion → Hunt → Bool × Hunt
  | .test t, hunt =>
    if hunt.hasQuit then (false, hunt)
    else t.check launch start seen hunt
  | .opposite c, hunt =>
    let (value, hunt) := check launch start seen c hunt
    (!value, hunt)
  | .both a b, hunt =>
    let (value, hunt) := check launch start seen a hunt
    if value then check launch start seen b hunt else (false, hunt)
  | .either a b, hunt =>
    let (value, hunt) := check launch start seen a hunt
    if value then (true, hunt) else check launch start seen b hunt
  | .second a b, hunt =>
    let (_, hunt) := check launch start seen a hunt
    check launch start seen b hunt

/- A path below another one. -/
def pathBelow (p : Path) (name : String) : Path :=
  if p.endsWith "/" then p ++ name else p ++ "/" ++ name

/- The node that a path leads to, as the manner has it. -/
def sight (m : Manner) (files : FileTree) (loc : Location) (isFirst : Bool) :
    Option (Location × Node) :=
  let plain := (files.node? loc).map fun node => (loc, node)
  if m.follows || (isFirst && m.followsFirst) then
    (files.resolved? [] loc.toPath).orElse fun _ => plain
  else
    plain

/- Go through a file and all below it. -/
def visit (launch : Launch) (start : Start) (m : Manner) (c : Criterion)
    (origin : Path) : Nat → Nat → Path → Location → Hunt → Hunt
  | 0, _, _, _, hunt => hunt
  | fuel + 1, depth, path, loc, hunt =>
    if hunt.hasQuit then hunt
    else
      match sight m hunt.world.files loc (depth == 0) with
      | none => hunt
      | some (loc, node) =>
        let seen : Seen := ⟨path, origin, loc, node, depth⟩
        let examine (hunt : Hunt) : Hunt :=
          if depth < m.least then hunt
          else (check launch start seen c hunt).2
        let descend (hunt : Hunt) : Hunt :=
          if node == .directory && m.most?.all (depth < ·) then
            (hunt.world.files.names loc).foldl
              (fun hunt name =>
                visit launch start m c origin fuel (depth + 1)
                  (pathBelow path name) (loc ++ [name]) hunt)
              hunt
          else hunt
        if m.isDeepFirst then
          examine (descend { hunt with isPruned := false })
        else
          let hunt := examine { hunt with isPruned := false }
          if hunt.isPruned then hunt else descend hunt

/- How deep directories are gone through. -/
def depthLimit : Nat := 256

/- Start the programs that take many files. -/
def startWaiting (launch : Launch) (start : Start) (hunt : Hunt) : Hunt :=
  hunt.waiting.foldl
    (fun (hunt : Hunt) (_, words, inPlace, all) =>
      let front := words.takeWhile (· != "\x7b\x7d")
      let groups : List (Location × List Path) :=
        if inPlace then
          all.map fun seen => ((placed seen).1, [(placed seen).2])
        else [(start.cwd, all.map Seen.path)]
      groups.foldl
        (fun (hunt : Hunt) (cwd, paths) =>
          let (isWell, hunt) :=
            startFor launch start hunt (front ++ paths) cwd
          if isWell then hunt
          else { hunt with report := { hunt.report with
            status := max 1 hunt.report.status } })
        hunt)
    { hunt with waiting := [] }

end Find

namespace Tools

/- The options in front of the paths of a search. -/
def findManner : List String → Find.Manner → List String × Find.Manner
  | "-L" :: rest, m =>
    findManner rest { m with follows := true, followsFirst := true }
  | "-H" :: rest, m =>
    findManner rest { m with follows := false, followsFirst := true }
  | "-P" :: rest, m =>
    findManner rest { m with follows := false, followsFirst := false }
  | words, m => (words, m)

/- Whether a word starts an expression. -/
def startsExpression (word : String) : Bool :=
  (word.startsWith "-" && word.length > 1)
    || word == "(" || word == ")" || word == "!"

/- Look for files. -/
def find (launch : Find.Launch) (world : World) (start : Start) : Ran :=
  let (words, m) := findManner start.args
    ⟨0, none, false, false, false, ""⟩
  let (paths, words) := words.span (!startsExpression ·)
  let paths := if paths.isEmpty then ["."] else paths
  match Find.read m words with
  | .error why => Ran.complaining world 1 why
  | .ok (c, m) =>
    let hunt := paths.foldl
      (fun (hunt : Find.Hunt) path =>
        let fail (why : FileTree.PathError) : Find.Hunt :=
          { hunt with
            report := hunt.report.complain 1
              ("find: " ++ quoted path ++ ": " ++ reason why) }
        let place := if m.follows || m.followsFirst then
            match hunt.world.files.locate start.cwd path with
            | .ok loc => .ok loc
            | .error _ => hunt.world.files.locateEntry start.cwd path
          else hunt.world.files.locateEntry start.cwd path
        if hunt.hasQuit then hunt
        else if path.isEmpty then fail .notFound
        else
          match place with
          | .error e => fail e
          | .ok loc =>
            Find.visit launch start m c path Find.depthLimit 0 path loc hunt)
      (⟨world, .new, false, false, []⟩ : Find.Hunt)
    let hunt := Find.startWaiting launch start hunt
    hunt.report.finish hunt.world none

end Tools

end Sandbox

end TreeLint
