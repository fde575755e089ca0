import TreeLint.Sandbox.Tools.Inputs
import TreeLint.Text.Numeral
import TreeLint.Text.Regex.Reading

/-
  Scripts that edit lines.

  Key definitions include:
    * `Edit.Address`
    * `Edit.Action`
    * `Edit.Command`
    * `Edit.read`

  A script is a list of commands.  A command applies to the
  lines that its addresses select, and to all lines without
  one.  Blocks and labels become positions in the list.
-/

------------------------------------------------------------
-- Commands
------------------------------------------------------------

namespace TreeLint

namespace Sandbox

namespace Edit

open Tools

/- An expression as it is used; an empty one is the last one used. -/
inductive Pattern where
  | last
  | some (re : Regex) (foldsCase hasLines : Bool)
deriving DecidableEq, Repr

/- What selects a line. -/
inductive Address where
  | line (n : Nat)
  | final
  | pattern (p : Pattern)
  | step (first by' : Nat)
deriving DecidableEq, Repr

/- Where a range of lines ends. -/
inductive RangeEnd where
  | at (address : Address)
  /- So many lines further. -/
  | after (n : Nat)
  /- At the next line whose number is a multiple. -/
  | multiple (n : Nat)
deriving DecidableEq, Repr

/- A change of the size of letters. -/
inductive Casing where
  | upper
  | lower
  | none
  | upperOnce
  | lowerOnce
deriving DecidableEq, Repr

/- A part of what replaces a match. -/
inductive Piece where
  | char (c : Char)
  | group (n : Nat)
  | casing (casing : Casing)
deriving DecidableEq, Repr

/- A replacement of matches. -/
structure Replacing where
  pattern : Pattern
  pieces : List Piece
  /- Which match is the first to be replaced. -/
  number : Nat
  isGlobal : Bool
  prints : Bool
  file? : Option String
deriving DecidableEq, Repr

/- What a command does. -/
inductive Action where
  /- Go to a position unless the line is selected. -/
  | block (stop : Nat)
  | nothing
  | append (text : Chars)
  | insert (text : Chars)
  | change (text : Chars)
  | branch (label : Chars)
  | branchIfReplaced (label : Chars)
  | branchUnlessReplaced (label : Chars)
  | delete
  | deleteFirst
  | fileName
  | get
  | getAppended
  | hold
  | holdAppended
  | list (width? : Option Nat)
  | next
  | nextAppended
  | number
  | print
  | printFirst
  | quit (status : Nat)
  | quitSilently (status : Nat)
  | readFile (name : String)
  | readLine (name : String)
  | replace (replacing : Replacing)
  | write (name : String)
  | writeFirst (name : String)
  | exchange
  | translate (table : List (Char × Char))
  | empty
deriving DecidableEq, Repr

/- A command with the addresses of the lines that it is for. -/
structure Command where
  first? : Option Address
  last? : Option RangeEnd
  isNegated : Bool
  action : Action
deriving DecidableEq, Repr

/- A script, and the positions of its labels. -/
structure Script where
  commands : Array Command
  labels : List (Chars × Nat)
  /- The script asks to print nothing by itself. -/
  isQuiet : Bool

------------------------------------------------------------
-- Reading Characters
------------------------------------------------------------

/- Why a script cannot be read, and how far it was read. -/
structure Fault where
  why : String
  /- None if the place does not matter. -/
  place? : Option Nat
  status : Int

/- A script that is being read. -/
structure Reader where
  rest : Chars
  count : Nat

namespace Reader

/- The next character. -/
def next (reader : Reader) : Option Char × Reader :=
  match reader.rest with
  | [] => (none, reader)
  | c :: rest => (some c, ⟨rest, reader.count + 1⟩)

/- The reader behind some characters. -/
def skip (reader : Reader) (n : Nat) : Reader :=
  ⟨reader.rest.drop n, reader.count + min n reader.rest.length⟩

/- The reader behind blanks of a kind. -/
def skipWhile (reader : Reader) (isBlank : Char → Bool) : Reader :=
  reader.skip (reader.rest.takeWhile isBlank).length

/- The fault of what was read so far. -/
def fault {α : Type} (reader : Reader) (why : String) : Except Fault α :=
  .error ⟨why, some reader.count, 1⟩

/- A number, if there is one. -/
def number? (reader : Reader) : Option Nat × Reader :=
  let digits := reader.rest.takeWhile Numeral.isDigit
  (Numeral.natural? 10 digits, reader.skip digits.length)

end Reader

/- The length of a set in brackets at the start of a text. -/
def bracketLength (text : Chars) : Nat :=
  let start := match text with
    | '^' :: ']' :: _ => 2
    | '^' :: _ => 1
    | ']' :: _ => 1
    | _ => 0
  start + inside (text.length + 1) (text.drop start)
where
  /- The length up to the closing bracket, with it. -/
  inside : Nat → Chars → Nat
    | 0, _ => 0
    | _, [] => 0
    | fuel + 1, '[' :: mark :: rest =>
      if mark == ':' || mark == '.' || mark == '=' then
        let name := nameLength mark rest
        2 + name + inside fuel (rest.drop name)
      else 1 + inside fuel (mark :: rest)
    | fuel + 1, c :: rest => if c == ']' then 1 else 1 + inside fuel rest
  /- The length of a name up to its mark and a bracket, with both. -/
  nameLength (mark : Char) : Chars → Nat
    | a :: b :: rest =>
      if a == mark && b == ']' then 2 else 1 + nameLength mark (b :: rest)
    | rest => rest.length

/-
  A text up to a mark; a backslash takes the meaning from the
  mark.  Within an expression a set in brackets may hold the
  mark, and a letter may stand for a line feed.
-/
def upTo (mark : Char) (isRegex : Bool) :
    Nat → Reader → Option (Chars × Reader)
  | 0, _ => none
  | fuel + 1, reader =>
    let more (text : Chars) (reader : Reader) : Option (Chars × Reader) :=
      (upTo mark isRegex fuel reader).map fun (rest, reader) =>
        (text ++ rest, reader)
    match reader.rest with
    | [] => none
    | '\\' :: c :: _ =>
      let behind := reader.skip 2
      if c == 'n' && isRegex && c != mark then more ['\n'] behind
      else if c == '\n' then more (if isRegex then ['\n'] else ['\\', '\n'])
        behind
      else if c == mark && !(!isRegex && c == '&') then more [c] behind
      else more ['\\', c] behind
    | c :: rest =>
      if c == mark then some ([], reader.skip 1)
      else if c == '\n' && isRegex then none
      else if c == '[' && isRegex then
        let n := bracketLength rest
        let set := (rest.take n)
        more ('[' :: withBreaks set) (reader.skip (n + 1))
      else more [c] (reader.skip 1)
where
  /- A set whose letters for line feeds have become line feeds. -/
  withBreaks : Chars → Chars
    | '\\' :: 'n' :: rest => '\n' :: withBreaks rest
    | c :: rest => c :: withBreaks rest
    | [] => []

/- The characters that a number behind a backslash stands for. -/
def numbered (base limit : Nat) (text : Chars) : Option (Char × Chars) :=
  let digits := (text.take limit).takeWhile
    fun c => (Numeral.digit? base c).isSome
  (Numeral.natural? base digits).map fun n =>
    (Char.ofNat (n % 256), text.drop digits.length)

/- A text with backslashes in front of letters worked out. -/
def unescape (special : Chars) : Nat → Chars → Chars
  | 0, text => text
  | fuel + 1, '\\' :: c :: rest =>
    let plain (d : Char) (rest : Chars) : Chars :=
      (if special.contains d then ['\\', d] else [d])
        ++ unescape special fuel rest
    let kept : Chars := '\\' :: c :: unescape special fuel rest
    let byNumber (base limit : Nat) : Chars :=
      match numbered base limit rest with
      | some (d, rest) => plain d rest
      | none => kept
    match c with
    | 'a' => plain '\x07' rest
    | 'f' => plain '\x0c' rest
    | 'n' => plain '\n' rest
    | 'r' => plain '\r' rest
    | 't' => plain '\t' rest
    | 'v' => plain '\x0b' rest
    | 'd' => byNumber 10 3
    | 'o' => byNumber 8 3
    | 'x' => byNumber 16 2
    | 'c' =>
      match rest with
      | d :: rest =>
        plain (Char.ofNat (d.toUpper.toNat ^^^ 64)) rest
      | [] => kept
    | _ => kept
  | fuel + 1, c :: rest => c :: unescape special fuel rest
  | _, [] => []

/- The characters with a meaning in expressions. -/
def regexSigns : Chars := "$*.[\\]^".toList

------------------------------------------------------------
-- Parts Of Commands
------------------------------------------------------------

/- An expression of a script. -/
def readPattern (isExtended foldsCase hasLines : Bool) (text : Chars)
    (reader : Reader) : Except Fault Pattern :=
  if text.isEmpty then .ok .last
  else
    let text := unescape regexSigns (text.length + 1) text
    match Regex.read ⟨isExtended, true⟩ text with
    | .ok re => .ok (.some re foldsCase hasLines)
    | .error .bareClass =>
      .error ⟨Regex.Fault.bareClass.message, none, 4⟩
    | .error fault => reader.fault fault.message

/- The letters behind the expression of an address. -/
def patternLetters : Nat → Bool → Bool → Reader → Bool × Bool × Reader
  | 0, i, m, reader => (i, m, reader)
  | fuel + 1, i, m, reader =>
    match reader.rest with
    | 'I' :: _ => patternLetters fuel true m (reader.skip 1)
    | 'M' :: _ => patternLetters fuel i true (reader.skip 1)
    | _ => (i, m, reader)

/- An address, if there is one. -/
def readAddress (isExtended : Bool) (reader : Reader) :
    Except Fault (Option Address × Reader) :=
  let pattern (mark : Char) (reader : Reader) :
      Except Fault (Option Address × Reader) := do
    match upTo mark true (reader.rest.length + 1) reader with
    | none =>
      (reader.skip reader.rest.length).fault "unterminated address regex"
    | some (text, reader) =>
      let (i, m, reader) :=
        patternLetters (reader.rest.length + 1) false false reader
      let p ← readPattern isExtended i m text reader
      .ok (some (.pattern p), reader)
  match reader.rest with
  | '/' :: _ => pattern '/' (reader.skip 1)
  | '\\' :: mark :: _ => pattern mark (reader.skip 2)
  | '$' :: _ => .ok (some .final, reader.skip 1)
  | _ =>
    match reader.number? with
    | (none, reader) => .ok (none, reader)
    | (some n, reader) =>
      let reader := reader.skipWhile Octet.isSpace
      match reader.rest with
      | '~' :: _ =>
        let (by', reader) := ((reader.skip 1).skipWhile Octet.isSpace).number?
        .ok (some (.step n (by'.getD 0)), reader)
      | _ => .ok (some (.line n), reader)

/- The end of a range, if there is one. -/
def readRangeEnd (isExtended : Bool) (reader : Reader) :
    Except Fault (Option RangeEnd × Reader) :=
  match reader.rest with
  | '+' :: _ =>
    match (reader.skip 1).number? with
    | (some n, reader) => .ok (some (.after n), reader)
    | (none, reader) => reader.fault "expected newer version of sed"
  | '~' :: _ =>
    match (reader.skip 1).number? with
    | (some n, reader) => .ok (some (.multiple n), reader)
    | (none, reader) => reader.fault "expected newer version of sed"
  | _ =>
    (readAddress isExtended reader).map fun (address?, reader) =>
      (address?.map .at, reader)

/- The pieces of what replaces a match. -/
def readPieces : Nat → Chars → List Piece
  | 0, _ => []
  | fuel + 1, '\\' :: c :: rest =>
    let piece : Piece := match c with
      | 'L' => .casing .lower
      | 'U' => .casing .upper
      | 'E' => .casing .none
      | 'l' => .casing .lowerOnce
      | 'u' => .casing .upperOnce
      | c =>
        if Numeral.isDigit c then .group (c.toNat - '0'.toNat) else .char c
    piece :: readPieces fuel rest
  | fuel + 1, '&' :: rest => .group 0 :: readPieces fuel rest
  | fuel + 1, c :: rest => .char c :: readPieces fuel rest
  | _, [] => []

/- The highest group that pieces ask for. -/
def highestGroup (pieces : List Piece) : Nat :=
  pieces.foldl (fun highest piece =>
    match piece with
    | .group n => max highest n
    | _ => highest) 0

/- The name of a file up to the end of the line. -/
def readName (reader : Reader) : Except Fault (String × Reader) :=
  let behind := reader.skipWhile Octet.isBlank
  let name := behind.rest.takeWhile (· != '\n')
  if name.isEmpty then
    behind.fault "missing filename in r/R/w/W commands"
  else
    .ok (Octet.toText name, behind.skip (name.length + 1))

/- The flags of a replacement. -/
structure Flags where
  isGlobal : Bool
  prints : Bool
  number? : Option Nat
  foldsCase : Bool
  hasLines : Bool
  file? : Option String

/- Read the flags of a replacement up to the end of the command. -/
def readFlags : Nat → Flags → Reader → Except Fault (Flags × Reader)
  | 0, flags, reader => .ok (flags, reader)
  | fuel + 1, flags, reader =>
    let (c?, behind) := reader.next
    match c? with
    | none => .ok (flags, behind)
    | some c =>
      if c == '\n' || c == ';' then .ok (flags, behind)
      else if c == '\x7d' || c == '#' then .ok (flags, reader)
      else if c == '\r' || Octet.isBlank c then readFlags fuel flags behind
      else if c == 'i' || c == 'I' then
        readFlags fuel { flags with foldsCase := true } behind
      else if c == 'm' || c == 'M' then
        readFlags fuel { flags with hasLines := true } behind
      else if c == 'p' then
        if flags.prints then
          behind.fault "multiple \x60p' options to \x60s' command"
        else readFlags fuel { flags with prints := true } behind
      else if c == 'g' then
        if flags.isGlobal then
          behind.fault "multiple \x60g' options to \x60s' command"
        else readFlags fuel { flags with isGlobal := true } behind
      else if c == 'w' then
        (readName behind).map fun (name, reader) =>
          ({ flags with file? := some name }, reader)
      else if Numeral.isDigit c then
        match reader.number? with
        | (some 0, behind) =>
          behind.fault "number option to \x60s' command may not be zero"
        | (n?, behind) =>
          if flags.number?.isSome then
            behind.fault "multiple number options to \x60s' command"
          else readFlags fuel { flags with number? := n? } behind
      else
        behind.fault "unknown option to \x60s'"

/- Read a replacement behind its letter. -/
def readReplacing (isExtended : Bool) (reader : Reader) :
    Except Fault (Replacing × Reader) := do
  let unterminated : Except Fault (Replacing × Reader) :=
    (reader.skip reader.rest.length).fault
      "unterminated \x60s' command"
  match reader.next with
  | (none, _) => unterminated
  | (some mark, reader) =>
    let fuel := reader.rest.length + 1
    match upTo mark true fuel reader with
    | none => unterminated
    | some (pattern, reader) =>
      match upTo mark false fuel reader with
      | none => unterminated
      | some (text, reader) =>
        let (flags, reader) ← readFlags fuel
          ⟨false, false, none, false, false, none⟩ reader
        let p ← readPattern isExtended flags.foldsCase flags.hasLines
          pattern reader
        let pieces := readPieces (text.length + 1)
          (unescape ['&', '\\'] (text.length + 1) text)
        let highest := highestGroup pieces
        let known := match p with
          | .some re _ _ => re.groups
          | .last => 9
        if known < highest then
          reader.fault ("invalid reference \\" ++ toString highest
            ++ " on \x60s' command's RHS")
        else
          .ok (⟨p, pieces, flags.number?.getD 1, flags.isGlobal,
            flags.prints, flags.file?⟩, reader)

/- The characters of one side of an exchange. -/
def exchangeChars : Chars → Chars
  | '\\' :: '\\' :: rest => '\\' :: exchangeChars rest
  | '\\' :: '\n' :: rest => '\n' :: exchangeChars rest
  | '\\' :: c :: rest => '\\' :: c :: exchangeChars rest
  | c :: rest => c :: exchangeChars rest
  | [] => []

/- Read an exchange of characters behind its letter. -/
def readExchange (reader : Reader) :
    Except Fault (List (Char × Char) × Reader) :=
  let unterminated : Except Fault (List (Char × Char) × Reader) :=
    (reader.skip reader.rest.length).fault
      "unterminated \x60y' command"
  match reader.next with
  | (none, _) => unterminated
  | (some mark, reader) =>
    let fuel := reader.rest.length + 1
    match upTo mark false fuel reader with
    | none => unterminated
    | some (first, reader) =>
      match upTo mark false fuel reader with
      | none => unterminated
      | some (second, reader) =>
        let chars (text : Chars) : Chars :=
          exchangeChars (unescape ['\\'] (text.length + 1) text)
        let first := chars first
        let second := chars second
        if first.length != second.length then
          reader.fault
            "strings for \x60y' command are different lengths"
        else
          .ok (first.zip second, reader)

/- The lines of a text up to one that does not end in a backslash. -/
def textLines : Nat → Chars → Chars × Nat
  | 0, _ => ([], 0)
  | _, [] => ([], 0)
  | _, ['\\'] => ([], 1)
  | fuel + 1, '\\' :: c :: rest =>
    let (text, n) := textLines fuel rest
    (if c == '\n' then c :: text else '\\' :: c :: text, n + 2)
  | fuel + 1, c :: rest =>
    if c == '\n' then ([], 1)
    else
      let (text, n) := textLines fuel rest
      (c :: text, n + 1)

/- A text without the backslashes that are left. -/
def dropBackslashes : Chars → Chars
  | '\\' :: c :: rest => c :: dropBackslashes rest
  | c :: rest => c :: dropBackslashes rest
  | [] => []

/- Read the text of a command that prints one. -/
def readBlock (reader : Reader) : Except Fault (Chars × Reader) :=
  let behind := reader.skipWhile Octet.isBlank
  let finish (reader : Reader) : Except Fault (Chars × Reader) :=
    let (text, n) := textLines (reader.rest.length + 1) reader.rest
    let text := dropBackslashes (unescape ['\\'] (text.length + 1) text)
    .ok (text ++ ['\n'], reader.skip n)
  match behind.rest with
  | [] => behind.fault "expected \\ after \x60a', \x60c' or \x60i'"
  | ['\n'] => behind.fault "expected \\ after \x60a', \x60c' or \x60i'"
  | '\\' :: _ =>
    let behind := behind.skip 1
    let blank := behind.skipWhile Octet.isBlank
    match blank.rest with
    | [] => .ok ([], blank)
    | '\n' :: _ =>
      if (blank.skip 1).rest.isEmpty then .ok ([], blank.skip 1)
      else finish (blank.skip 1)
    | _ => finish behind
  | _ => finish behind

/- The label behind a command. -/
def readLabel (reader : Reader) : Chars × Reader :=
  let behind := reader.skipWhile Octet.isBlank
  let label := behind.rest.takeWhile fun c =>
    !Octet.isSpace c && c != ';' && c != '\x7d'
  (label, behind.skip label.length)

------------------------------------------------------------
-- Scripts
------------------------------------------------------------

/- A script of which a part has been read. -/
structure Draft where
  commands : Array Command
  labels : List (Chars × Nat)
  /- The positions of blocks that are open, the innermost first. -/
  blocks : List Nat

namespace Draft

/- The draft with one more command. -/
def push (draft : Draft) (command : Command) : Draft :=
  { draft with commands := draft.commands.push command }

end Draft

/- What must follow a command. -/
def readEnd (reader : Reader) : Except Fault Reader :=
  let behind := reader.skipWhile Octet.isBlank
  match behind.next with
  | (none, behind) => .ok behind
  | (some c, after) =>
    if c == '\n' || c == ';' then .ok after
    else if c == '\x7d' || c == '#' then .ok behind
    else if c == '\r' then .ok after
    else after.fault "extra characters after command"

/- Read one command behind its addresses. -/
def readAction (isExtended : Bool) (draft : Draft)
    (command : Action → Command) (hasAddress hasRange : Bool) (c : Char)
    (reader : Reader) : Except Fault (Draft × Reader) := do
  let simple (action : Action) : Except Fault (Draft × Reader) := do
    let reader ← readEnd reader
    .ok (draft.push (command action), reader)
  let withText (action : Chars → Action) :
      Except Fault (Draft × Reader) := do
    let (text, reader) ← readBlock reader
    .ok (draft.push (command (action text)), reader)
  let withName (action : String → Action) :
      Except Fault (Draft × Reader) := do
    let (name, reader) ← readName reader
    .ok (draft.push (command (action name)), reader)
  let withLabel (action : Chars → Action) :
      Except Fault (Draft × Reader) := do
    let (label, reader) := readLabel reader
    let reader ← readEnd reader
    .ok (draft.push (command (action label)), reader)
  let withNumber (action : Option Nat → Action) :
      Except Fault (Draft × Reader) := do
    let (n?, reader) := (reader.skipWhile Octet.isBlank).number?
    let reader ← readEnd reader
    .ok (draft.push (command (action n?)), reader)
  match c with
  | '\x7b' =>
    let position := draft.commands.size
    .ok ({ draft.push (command (.block 0)) with
      blocks := position :: draft.blocks }, reader)
  | '\x7d' =>
    match draft.blocks with
    | [] => reader.fault "unexpected \x60\x7d'"
    | position :: blocks =>
      if hasAddress then reader.fault "\x7d doesn't want any addresses"
      else
        let commands := draft.commands.modify position fun opened =>
          { opened with action := .block draft.commands.size }
        let reader ← readEnd reader
        .ok ({ draft with commands, blocks }, reader)
  | ':' =>
    if hasAddress then reader.fault ": doesn't want any addresses"
    else
      let behind := reader.skipWhile Octet.isBlank
      let label := behind.rest.takeWhile fun c =>
        !Octet.isSpace c && c != ';'
      if label.isEmpty then reader.fault "\":\" lacks a label"
      else
        .ok ({ draft with
          labels := (label, draft.commands.size) :: draft.labels },
          behind.skip label.length)
  | '=' => simple .number
  | 'a' => withText .append
  | 'i' => withText .insert
  | 'c' => withText .change
  | 'b' => withLabel .branch
  | 't' => withLabel .branchIfReplaced
  | 'T' => withLabel .branchUnlessReplaced
  | 'd' => simple .delete
  | 'D' => simple .deleteFirst
  | 'F' => simple .fileName
  | 'g' => simple .get
  | 'G' => simple .getAppended
  | 'h' => simple .hold
  | 'H' => simple .holdAppended
  | 'l' => withNumber .list
  | 'n' => simple .next
  | 'N' => simple .nextAppended
  | 'p' => simple .print
  | 'P' => simple .printFirst
  | 'q' =>
    if hasRange then reader.fault "command only uses one address"
    else withNumber fun n? => .quit (n?.getD 0)
  | 'Q' =>
    if hasRange then reader.fault "command only uses one address"
    else withNumber fun n? => .quitSilently (n?.getD 0)
  | 'r' => withName .readFile
  | 'R' => withName .readLine
  | 'w' => withName .write
  | 'W' => withName .writeFirst
  | 's' =>
    let (replacing, reader) ← readReplacing isExtended reader
    .ok (draft.push (command (.replace replacing)), reader)
  | 'y' =>
    let (table, reader) ← readExchange reader
    let reader ← readEnd reader
    .ok (draft.push (command (.translate table)), reader)
  | 'x' => simple .exchange
  | 'z' => simple .empty
  | 'v' =>
    let (_, reader) := readLabel reader
    let reader ← readEnd reader
    .ok (draft, reader)
  | c =>
    reader.fault ("unknown command: \x60" ++ String.singleton c ++ "'")

/- Read the exclamation marks in front of a command. -/
def readNegation (reader : Reader) : Except Fault (Bool × Reader) :=
  let reader := reader.skipWhile Octet.isBlank
  match reader.rest with
  | '!' :: _ =>
    let behind := (reader.skip 1).skipWhile Octet.isBlank
    if behind.rest.head? == some '!' then
      (behind.skip 1).fault "multiple \x60!'s"
    else
      .ok (true, behind)
  | _ => .ok (false, reader)

/- Read all commands. -/
def readCommands (isExtended : Bool) :
    Nat → Draft → Reader → Except Fault Draft
  | 0, draft, _ => .ok draft
  | fuel + 1, draft, reader => do
    let reader := reader.skipWhile fun c => Octet.isSpace c || c == ';'
    match reader.rest with
    | [] => .ok draft
    | '#' :: rest =>
      readCommands isExtended fuel draft
        (reader.skip (1 + (rest.takeWhile (· != '\n')).length))
    | _ =>
      let (first?, reader) ← readAddress isExtended reader
      let behind := reader.skipWhile Octet.isBlank
      let (last?, reader) ←
        match first?, behind.rest with
        | some _, ',' :: _ => do
          let (last?, reader) ← readRangeEnd isExtended
            ((behind.skip 1).skipWhile Octet.isBlank)
          if last?.isNone then reader.fault "unexpected \x60,'"
          else .ok (last?, reader)
        | _, _ => .ok (none, if first?.isSome then behind else reader)
      let zeroIsWrong := match last? with
        | some (.at (.pattern _)) => false
        | _ => true
      if first? == some (.line 0) && zeroIsWrong then
        (reader.skip 1).fault "invalid usage of line address 0"
      else
        let (isNegated, reader) ← readNegation reader
        match reader.next with
        | (none, reader) => reader.fault "missing command"
        | (some '#', reader) =>
          reader.fault "comments don't accept any addresses"
        | (some c, reader) =>
          let (draft, reader) ← readAction isExtended draft
            (fun action => ⟨first?, last?, isNegated, action⟩)
            first?.isSome last?.isSome c reader
          readCommands isExtended fuel draft reader

/- The label that a command goes to. -/
def Action.label? : Action → Option Chars
  | branch label => some label
  | branchIfReplaced label => some label
  | branchUnlessReplaced label => some label
  | _ => none

/- Read a script. -/
def read (isExtended : Bool) (text : Chars) : Except Fault Script := do
  let draft ← readCommands isExtended (text.length + 1) ⟨#[], [], []⟩
    ⟨text, 0⟩
  if !draft.blocks.isEmpty then
    .error ⟨"unmatched \x60\x7b'", some 0, 1⟩
  else
    let missing := draft.commands.toList.filterMap fun command =>
      command.action.label?.filter fun label =>
        !label.isEmpty && (draft.labels.lookup label).isNone
    match missing with
    | label :: _ =>
      .error ⟨"can't find label for jump to \x60" ++ Octet.toText label
        ++ "'", none, 1⟩
    | [] =>
      .ok ⟨draft.commands, draft.labels,
        "#n\n".toList.isPrefixOf text || text == "#n".toList⟩

end Edit

end Sandbox

end TreeLint
