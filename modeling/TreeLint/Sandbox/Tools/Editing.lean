import TreeLint.Sandbox.Tools.Edits

/-
  The program that edits lines.

  Key definitions include:
    * `Edit.State`
    * `Edit.replaceIn`
    * `Edit.perform`
    * `Tools.sed`

  The script is carried out for each line.  The line is then
  printed, unless the script has deleted it or nothing is to be
  printed by itself.  With editing in place a file is replaced
  by what was printed for its lines.
-/

------------------------------------------------------------
-- States
------------------------------------------------------------

namespace TreeLint

namespace Sandbox

namespace Edit

open Tools

/- How far a range of lines has come. -/
inductive RangeState where
  | active (stop : Nat)
  | closed
deriving DecidableEq, Repr

/- Something to be printed behind a line. -/
inductive Queued where
  | text (text : Chars)
  | file (name : String)
deriving DecidableEq, Repr

/- How the program was called. -/
structure Manner where
  script : Script
  isQuiet : Bool
  /- Each file is for itself. -/
  isSeparate : Bool
  /- Files are edited in place; the text is the ending of copies. -/
  inPlace? : Option String
  mark : Char
  width : Nat
  start : Start

/- Where the editing of lines has come to. -/
structure State where
  world : World
  /- What was printed, newest first. -/
  out : List Chars
  complaints : List String
  status : Int
  space : Chars
  /- The line had an end of its own. -/
  isEnded : Bool
  held : Chars
  line : Nat
  /- Texts that have not been opened, and the rest of the one that has. -/
  sources : List Source
  name : String
  rest : List Chars
  queue : List Queued
  isReplaced : Bool
  ranges : List (Nat × RangeState)
  last? : Option Pattern
  /- What was printed last has no end yet. -/
  isOpen : Bool
  /- The lines of files that are read line by line. -/
  readers : List (String × List Chars)
  isBroken : Bool

namespace State

/- Print characters. -/
def emit (st : State) (text : Chars) (isOpen : Bool) : State :=
  { st with
    out := (if st.isOpen then '\n' :: text else text) :: st.out
    isOpen }

/- Print a line as it was read. -/
def emitLine (m : Manner) (st : State) (text : Chars) : State :=
  st.emit (if st.isEnded then text ++ [m.mark] else text) (!st.isEnded)

/- Write a line to a file, or to where the lines go. -/
def writeTo (m : Manner) (st : State) (name : String) (text : Chars) :
    State :=
  if name == "/dev/stdout" then st.emitLine m text
  else if name == "/dev/stderr" then
    { st with complaints := Octet.toText text :: st.complaints }
  else
    match st.world.files.write? m.start.cwd name fun old =>
        old ++ Octet.encode (text ++ ['\n']) with
    | .ok files => { st with world := st.world.withFiles files }
    | .error _ => st

/- Print what waits for the end of the line. -/
def flushQueue (m : Manner) (st : State) : State :=
  { st.queue.foldl
      (fun (st : State) queued =>
        match queued with
        | .text text => st.emit text false
        | .file name =>
          let text := if name == "/dev/stdin" then
              .ok (Octet.decode m.start.stdin)
            else readText st.world m.start.cwd name
          match text with
          | .ok [] => st
          | .ok text => st.emit text false
          | .error _ => st)
      st with
    queue := [] }

/- Replace the file that was edited by what was printed. -/
def closeFile (m : Manner) (st : State) : State :=
  match m.inPlace? with
  | none => st
  | some ending =>
    if st.name.isEmpty then st
    else
      let copyName := if ending.contains '*' then
          ending.replace "*" st.name
        else st.name ++ ending
      let old := (readText st.world m.start.cwd st.name).toOption.getD []
      let write (files : FileTree) (p : Path) (text : Chars) : FileTree :=
        (files.write? m.start.cwd p fun _ => Octet.encode text).toOption.getD
          files
      let files := if ending.isEmpty then st.world.files
        else write st.world.files copyName old
      let files := write files st.name st.out.reverse.flatten
      { st with
        world := st.world.withFiles files
        out := []
        isOpen := false
        name := "" }

/- Open texts until one has a line. -/
def openNext (m : Manner) : List Source → State → Option State × State
  | [], st => (none, { st with sources := [] })
  | source :: sources, st =>
    let st := { st with sources, rest := [] }
    let complain (st : State) (status : Int) (why : String) : State :=
      { st with
        complaints := ("sed: " ++ why) :: st.complaints
        status := max status st.status }
    if st.isBroken then (none, st)
    else
      match source.text with
      | .error (.closed why) =>
        openNext m sources
          (complain st 2 ("can't read " ++ source.name ++ ": " ++ why))
      | .error .directory =>
        if m.inPlace?.isSome then
          openNext m sources (complain st 4
            ("couldn't edit " ++ source.name ++ ": not a regular file"))
        else
          (none, { complain st 4
            ("read error on " ++ source.name ++ ": Is a directory") with
            isBroken := true })
      | .ok text =>
        let st := { st with name := source.name }
        let st := if m.isSeparate then { st with line := 0, ranges := [] }
          else st
        match piecesBy m.mark text with
        | [] => openNext m sources (st.closeFile m)
        | rest => (some { st with rest }, st)

/- Take the next line, if there is one. -/
def take (m : Manner) (st : State) : Option State × State :=
  let (ready, st) := match st.rest with
    | [] => openNext m st.sources (st.closeFile m)
    | _ => (some st, st)
  match ready with
  | none => (none, st)
  | some st =>
    match st.rest with
    | [] => (none, st)
    | piece :: rest =>
      let text := withoutMark m.mark piece
      let st := { st with
        rest
        space := text
        isEnded := text.length < piece.length
        line := st.line + 1
        isReplaced := false }
      (some st, st)

/- Whether there is no line behind the current one. -/
def isLast (m : Manner) (st : State) : Bool :=
  st.rest.isEmpty
    && (m.isSeparate || st.sources.all fun source =>
      match source.text with
      | .ok text => text.isEmpty
      | .error _ => true)

end State

------------------------------------------------------------
-- Addresses
------------------------------------------------------------

/- The expression that a pattern means, with what it was used for last. -/
def Pattern.resolve (p : Pattern) (st : State) : Pattern :=
  match p with
  | last => st.last?.getD last
  | p => p

/- A text as something an expression is matched against. -/
def subjectOf (p : Pattern) (text : Chars) : Regex.Subject :=
  match p with
  | .some _ foldsCase hasLines => ⟨text.toArray, foldsCase, hasLines⟩
  | .last => ⟨text.toArray, false, false⟩

/- Whether an address selects the current line. -/
def Address.selects (m : Manner) (address : Address) (st : State) :
    Bool × State :=
  match address with
  | line n => (st.line == n, st)
  | final => (st.isLast m, st)
  | step first by' =>
    (if by' == 0 then st.line == first
      else first ≤ st.line && (st.line - first) % by' == 0, st)
  | pattern p =>
    let p := p.resolve st
    let st := { st with last? := some p }
    match p with
    | .some re _ _ => (re.isIn (subjectOf p st.space), st)
    | .last => (false, st)

/- Whether a command is for the current line. -/
def Command.selects (m : Manner) (command : Command) (position : Nat)
    (st : State) : Bool × State :=
  let put (st : State) (range : RangeState) : State :=
    { st with ranges := (position, range)
        :: st.ranges.filter (fun r => r.1 != position) }
  match command.first?, command.last? with
  | none, _ => (true, st)
  | some first, none => first.selects m st
  | some first, some last =>
    let state := match st.ranges.lookup position with
      | some state => state
      | none =>
        if first == Address.line 0 then .active 0 else .closed
    let upTo (stop : Nat) (st : State) : Bool × State :=
      (true, if stop ≤ st.line then st else put st (.active stop))
    match state with
    | .closed =>
      let (isFirst, st) := first.selects m st
      if !isFirst then (false, st)
      else
        match last with
        | .at (.line n) => upTo n st
        | .after n => upTo (st.line + n) st
        | .multiple 0 => (true, st)
        | .multiple n => upTo ((st.line + n - 1) / n * n) st
        | .at _ => (true, put st (.active 0))
    | .active stop =>
      match last with
      | .at (.line _) | .after _ | .multiple _ =>
        (st.line ≤ stop,
          if stop ≤ st.line then put st .closed else st)
      | .at address =>
        let (isEnd, st) := address.selects m st
        (true, if isEnd then put st .closed else st)

------------------------------------------------------------
-- Replacements
------------------------------------------------------------

/- Characters with their sizes changed. -/
def cased : Casing → Casing → Chars → Chars × Casing
  | _, once, [] => ([], once)
  | casing, once, c :: rest =>
    let c' := match once, casing with
      | .upperOnce, _ => c.toUpper
      | .lowerOnce, _ => c.toLower
      | _, .upper => c.toUpper
      | _, .lower => c.toLower
      | _, _ => c
    let (rest, once) := cased casing .none rest
    (c' :: rest, once)

/- What pieces make of a match. -/
def fill (s : Regex.Subject) (found : Regex.Found) :
    Casing → Casing → List Piece → Chars
  | _, _, [] => []
  | casing, once, piece :: rest =>
    let put (text : Chars) : Chars :=
      let (text', left) := cased casing once text
      text' ++ fill s found casing (if text.isEmpty then once else left) rest
    match piece with
    | .char c => put [c]
    | .group n => put (found.text s n)
    | .casing .upperOnce => fill s found casing .upperOnce rest
    | .casing .lowerOnce => fill s found casing .lowerOnce rest
    | .casing .none => fill s found .none .none rest
    | .casing casing => fill s found casing once rest

/-
  Replace matches from a position on.  An empty match right
  behind the one before does not count.
-/
def replaceFrom (re : Regex) (s : Regex.Subject) (replacing : Replacing) :
    Nat → Nat → Option Nat → Nat → Option Chars
  | 0, _, _, _ => none
  | fuel + 1, i, stop?, count =>
    let tail (i : Nat) : Chars := (s.chars.extract i s.chars.size).toList
    match re.find? s i with
    | none => if replacing.number ≤ count then some (tail i) else none
    | some found =>
      let before := (s.chars.extract i found.start).toList
      let matched := (s.chars.extract found.start found.stop).toList
      let isEmpty := found.start == found.stop
      let step := (s.chars.extract found.stop (found.stop + 1)).toList
      let further (text : Chars) (count : Nat) : Option Chars :=
        if isEmpty then
          if s.chars.size ≤ found.stop then
            if replacing.number ≤ count then some (before ++ text) else none
          else
            (replaceFrom re s replacing fuel (found.stop + 1) none count).map
              fun rest => before ++ text ++ step ++ rest
        else
          (replaceFrom re s replacing fuel found.stop (some found.stop)
            count).map fun rest => before ++ text ++ rest
      if isEmpty && stop? == some found.start then
        if s.chars.size ≤ found.stop then
          if replacing.number ≤ count then some before else none
        else
          (replaceFrom re s replacing fuel (found.stop + 1) none count).map
            fun rest => before ++ step ++ rest
      else if count + 1 < replacing.number then further matched (count + 1)
      else
        let text := fill s found .none .none replacing.pieces
        if replacing.isGlobal then further text (count + 1)
        else some (before ++ text ++ tail found.stop)

/- The text after a replacement, if anything was replaced. -/
def replaceIn (p : Pattern) (replacing : Replacing) (text : Chars) :
    Option Chars :=
  match p with
  | .some re _ _ =>
    let s := subjectOf p text
    replaceFrom re s replacing (2 * text.length + 3) 0 none 0
  | .last => none

------------------------------------------------------------
-- Commands
------------------------------------------------------------

/- A character in a form that leaves no doubt. -/
def unambiguous (c : Char) : Chars :=
  match c with
  | '\\' => ['\\', '\\']
  | '\x07' => ['\\', 'a']
  | '\x08' => ['\\', 'b']
  | '\x0c' => ['\\', 'f']
  | '\n' => ['\\', 'n']
  | '\r' => ['\\', 'r']
  | '\t' => ['\\', 't']
  | '\x0b' => ['\\', 'v']
  | c =>
    if ' ' ≤ c && c ≤ '~' then [c]
    else
      let digits := Nat.toDigits 8 c.toNat
      '\\' :: List.replicate (3 - digits.length) '0' ++ digits

/- A text in forms that leave no doubt, broken at a width. -/
def listed (width : Nat) : Nat → Chars → Chars
  | _, [] => ['$', '\n']
  | column, c :: rest =>
    let form := unambiguous c
    if width > 1 && column + form.length > width - 1 then
      '\\' :: '\n' :: form ++ listed width form.length rest
    else
      form ++ listed width (column + form.length) rest

/- The part of a text in front of its first line feed. -/
def firstLine (text : Chars) : Chars :=
  text.takeWhile (· != '\n')

/- How a script has ended for a line. -/
inductive Ending where
  | printing
  | silent
  /- The script is carried out again without a new line. -/
  | again
  | quit (status : Nat) (prints : Bool)
deriving DecidableEq, Repr

/- Where a branch goes. -/
def target (script : Script) (label : Chars) : Nat :=
  if label.isEmpty then script.commands.size
  else (script.labels.lookup label).getD script.commands.size

/- Carry out the commands from a position on. -/
def perform (m : Manner) : Nat → Nat → State → State × Ending
  | 0, _, st => (st, .printing)
  | fuel + 1, position, st =>
    match m.script.commands[position]? with
    | none => (st, .printing)
    | some command =>
      let (isSelected, st) := command.selects m position st
      let goOn (st : State) : State × Ending :=
        perform m fuel (position + 1) st
      if isSelected == command.isNegated then
        match command.action with
        | .block stop => perform m fuel stop st
        | _ => goOn st
      else
        match command.action with
        | .block _ => goOn st
        | .nothing => goOn st
        | .append text =>
          goOn { st with queue := st.queue ++ [.text text] }
        | .insert text => goOn (st.emit text false)
        | .change text =>
          let isInside := command.last?.isSome && !command.isNegated
            && (match st.ranges.lookup position with
              | some (.active _) => true
              | _ => false)
          (if isInside then st else st.emit text false, .silent)
        | .branch label => perform m fuel (target m.script label) st
        | .branchIfReplaced label =>
          if st.isReplaced then
            perform m fuel (target m.script label)
              { st with isReplaced := false }
          else goOn st
        | .branchUnlessReplaced label =>
          if st.isReplaced then goOn { st with isReplaced := false }
          else perform m fuel (target m.script label) st
        | .delete => (st, .silent)
        | .deleteFirst =>
          if st.space.contains '\n' then
            ({ st with
              space := st.space.drop ((firstLine st.space).length + 1) },
              .again)
          else (st, .silent)
        | .fileName =>
          goOn (st.emit (Octet.ofText st.name ++ ['\n']) false)
        | .get => goOn { st with space := st.held }
        | .getAppended =>
          goOn { st with space := st.space ++ '\n' :: st.held }
        | .hold => goOn { st with held := st.space }
        | .holdAppended =>
          goOn { st with held := st.held ++ '\n' :: st.space }
        | .list width? =>
          goOn (st.emit (listed (width?.getD m.width) 0 st.space) false)
        | .next =>
          if st.isLast m then (st, .quit 0 true)
          else
            let st := if m.isQuiet then st else st.emitLine m st.space
            match (st.flushQueue m).take m with
            | (some st, _) => goOn st
            | (none, st) => (st, .quit 0 false)
        | .nextAppended =>
          if st.isLast m then (st, .quit 0 true)
          else
            let before := st.space
            match (st.flushQueue m).take m with
            | (some st, _) =>
              goOn { st with space := before ++ '\n' :: st.space }
            | (none, st) => (st, .quit 0 false)
        | .number => goOn (st.emit (digits st.line ++ ['\n']) false)
        | .print => goOn (st.emitLine m st.space)
        | .printFirst =>
          goOn (st.emit (firstLine st.space ++ ['\n']) false)
        | .quit status => (st, .quit status true)
        | .quitSilently status => (st, .quit status false)
        | .readFile name =>
          goOn { st with queue := st.queue ++ [.file name] }
        | .readLine name =>
          let lines := match st.readers.lookup name with
            | some lines => lines
            | none =>
              linesOf ((readText st.world m.start.cwd name).toOption.getD [])
          let readers := (name, lines.drop 1)
            :: st.readers.filter (fun r => r.1 != name)
          let st := { st with readers }
          goOn (match lines with
            | line :: _ =>
              { st with queue := st.queue ++ [.text (line ++ ['\n'])] }
            | [] => st)
        | .replace replacing =>
          let p := replacing.pattern.resolve st
          let st := { st with last? := some p }
          match replaceIn p replacing st.space with
          | none => goOn st
          | some space =>
            let st := { st with space, isReplaced := true }
            let st := if replacing.prints then st.emitLine m space else st
            goOn (match replacing.file? with
              | some name => st.writeTo m name space
              | none => st)
        | .write name => goOn (st.writeTo m name st.space)
        | .writeFirst name =>
          goOn (st.writeTo m name (firstLine st.space))
        | .exchange =>
          goOn { st with space := st.held, held := st.space }
        | .translate table =>
          goOn { st with
            space := st.space.map fun c => (table.lookup c).getD c }
        | .empty => goOn { st with space := [] }

/- How many commands are carried out for a line at most. -/
def commandLimit : Nat := 200000

/- How many lines are edited at most. -/
def lineLimit : Nat := 1000000

/- Edit line after line. -/
def editLines (m : Manner) : Nat → Bool → State → State
  | 0, _, st => st
  | fuel + 1, hasLine, st =>
    let (ready, st) := if hasLine then (some st, st) else st.take m
    match ready with
    | none => st
    | some st =>
      let (st, ending) := perform m commandLimit 0 st
      let printed (prints : Bool) (st : State) : State :=
        (if prints && !m.isQuiet then st.emitLine m st.space
          else st).flushQueue m
      match ending with
      | .printing => editLines m fuel false (printed true st)
      | .silent => editLines m fuel false (printed false st)
      | .again => editLines m fuel true (printed false st)
      | .quit status prints =>
        let st := (printed prints st).closeFile m
        { st with
          status := if status == 0 then st.status else Int.ofNat status
          sources := []
          rest := [] }

/- The files that a script writes to. -/
def writtenFiles (script : Script) : List String :=
  (script.commands.toList.filterMap fun command =>
    match command.action with
    | .write name => some name
    | .writeFirst name => some name
    | .replace replacing => replacing.file?
    | _ => none).filter fun name =>
      name != "/dev/stdout" && name != "/dev/stderr"

end Edit

------------------------------------------------------------
-- The Program
------------------------------------------------------------

namespace Tools

/- The options of the program that edits lines. -/
def sedOptions : OptionTable :=
  ⟨"nErszu\x01\x02\x03\x05", "efl\x04",
    [ ("quiet", 'n'), ("silent", 'n'), ("debug", '\x01'),
      ("expression", 'e'), ("file", 'f'), ("follow-symlinks", '\x02'),
      ("in-place", '\x05'), ("line-length", 'l'), ("posix", '\x03'),
      ("regexp-extended", 'E'), ("separate", 's'), ("unbuffered", 'u'),
      ("null-data", 'z'), ("zero-terminated", 'z') ]⟩

/-
  The arguments with the option for editing in place written
  out: what follows its letter is the ending of copies.
-/
def inPlaceWords : List String → List String
  | [] => []
  | "--" :: rest => "--" :: rest
  | word :: rest =>
    match word.toList with
    | '-' :: c :: letters =>
      if c == '-' then word :: inPlaceWords rest
      else
        let front := (c :: letters).takeWhile fun c =>
          c != 'i' && c != 'e' && c != 'f' && c != 'l'
        match (c :: letters).drop front.length with
        | 'i' :: ending =>
          (if front.isEmpty then [] else [String.ofList ('-' :: front)])
            ++ ("--in-place=" ++ String.ofList ending) :: inPlaceWords rest
        | [_] =>
          match rest with
          | value :: rest => word :: value :: inPlaceWords rest
          | [] => [word]
        | _ => word :: inPlaceWords rest
    | _ => word :: inPlaceWords rest

/- The first line on how the program is used. -/
def sedUsage : String :=
  "Usage: sed [OPTION]... \x7bscript-only-if-no-other-script\x7d "
    ++ "[input-file]..."

/- The texts of a script, and the words that are left. -/
def scriptTexts (world : World) (start : Start) (options : Options) :
    Except (Int × String) (List Chars × List String) :=
  let given := options.letters.filter (fun o => o.1 == 'e' || o.1 == 'f')
  match given, options.words with
  | [], [] => .error (1, sedUsage)
  | [], script :: words => .ok ([Octet.ofText script], words)
  | given, words => do
    let texts ← given.mapM fun (letter, value) =>
      if letter == 'e' then .ok (Octet.ofText value)
      else
        match sources world start [value] with
        | ⟨_, .ok text⟩ :: _ => .ok (withoutMark '\n' text)
        | ⟨_, .error .directory⟩ :: _ =>
          .error ((4 : Int), "sed: couldn't read file " ++ value
            ++ ": Is a directory")
        | ⟨_, .error unread⟩ :: _ =>
          .error (4, "sed: couldn't open file " ++ value ++ ": "
            ++ unread.why)
        | [] => .ok []
    .ok (texts, words)

/- The number of a text, and of a character in it, at a place. -/
def placeIn : Nat → Nat → List Chars → Nat × Nat
  | n, place, text :: next :: rest =>
    if place ≤ text.length then (n, place)
    else placeIn (n + 1) (place - text.length - 1) (next :: rest)
  | n, place, _ => (n, place)

/- The wording of a fault in a script. -/
def editFault (texts : List Chars) (fault : Edit.Fault) : String :=
  match fault.place? with
  | none => "sed: " ++ fault.why
  | some 0 => "sed: -e expression #1, char 0: " ++ fault.why
  | some place =>
    let (n, place) := placeIn 1 place texts
    "sed: -e expression #" ++ toString n ++ ", char " ++ toString place
      ++ ": " ++ fault.why

/- Edit lines. -/
def sed (world : World) (start : Start) : Ran :=
  match Options.read sedOptions (inPlaceWords start.args) with
  | .error why =>
    Ran.complaining world 1 ("sed: " ++ why ++ "\n" ++ sedUsage)
  | .ok options =>
    match scriptTexts world start options with
    | .error (status, why) => Ran.complaining world status why
    | .ok (texts, words) =>
      match Edit.read (options.has 'E' || options.has 'r')
          (joinWith ['\n'] texts) with
      | .error fault =>
        Ran.complaining world fault.status (editFault texts fault)
      | .ok script =>
        let inPlace? := options.value? '\x05'
        let width := match options.value? 'l' with
          | some n => (Numeral.natural? 10 n.toList).getD 70
          | none => 70
        let m : Edit.Manner :=
          { script
            isQuiet := options.has 'n' || script.isQuiet
            isSeparate := options.has 's' || inPlace?.isSome
            inPlace?
            mark := if options.has 'z' then '\x00' else '\n'
            width, start }
        let files := (Edit.writtenFiles script).foldl
          (fun (files : FileTree) name =>
            (files.write? start.cwd name fun _ => []).toOption.getD files)
          world.files
        let all := if words.isEmpty && inPlace?.isSome then []
          else sources world start words
        let st := Edit.editLines m Edit.lineLimit false
          { world := world.withFiles files
            out := [], complaints := [], status := 0
            space := [], isEnded := true, held := [], line := 0
            sources := all, name := "", rest := [], queue := []
            isReplaced := false, ranges := [], last? := none
            isOpen := false, readers := [], isBroken := false }
        let report := st.complaints.reverse.foldl Report.remark Report.new
        ({ report.print st.out.reverse.flatten with
          status := st.status }).finish st.world (leftAfter? words)

end Tools

end Sandbox

end TreeLint
