import TreeLint.Sandbox.Shell

/-
  What the words of a script stand for.

  Key definitions include:
    * `Shell.Capture`
    * `Shell.expandWord`
    * `Shell.fields`
    * `Shell.redirectAll`

  Words are expanded in the customary order: variables,
  commands and arithmetic first, then the cutting into fields,
  then file name patterns.  All functions that may run for
  long take a number that bounds how deep words are nested.
-/

------------------------------------------------------------
-- Glyphs Of Values
------------------------------------------------------------

namespace TreeLint

namespace Sandbox

namespace Shell

/- Where a text stands that is expanded. -/
inductive Frame where
  | bare
  | quoted
  /- In a text that is given as input. -/
  | here
deriving DecidableEq

/- The glyphs of a value. -/
def valueGlyphs (frame : Frame) (value : String) : List Glyph :=
  if frame == .bare then value.toList.map .expanded
  else Glyph.literal value

/- The glyphs of all parameters. -/
def listGlyphs (sh : Shell) (frame : Frame) (star : Bool) : List Glyph :=
  if frame != .bare && star then
    Glyph.literal (Text.joinWith sh.glue sh.params)
  else if sh.params.isEmpty then
    [.void]
  else
    let front : List Glyph := if frame == .bare then [] else [.anchor]
    let words := sh.params.map (fun p => front ++ valueGlyphs frame p)
    (words.intersperse [.cut]).flatten

------------------------------------------------------------
-- Expansion
------------------------------------------------------------

/-
  A way to carry out a text as a script in a shell of its own
  and to collect what it prints.
-/
abbrev Capture := Shell → List Char → Shell × List UInt8

/- The longest or shortest beginning of a text that matches. -/
def dropMatching (pattern : List Glyph) (longest atEnd : Bool)
    (value : String) : String :=
  let text := value.toList
  let n := text.length
  let sizes := List.range (n + 1)
  let sizes := if longest then sizes.reverse else sizes
  match sizes.find? (fun size =>
      Pattern.matches? pattern
        (String.ofList
          (if atEnd then text.drop (n - size) else text.take size))) with
  | some size =>
    String.ofList
      (if atEnd then text.take (n - size) else text.drop size)
  | none => value

/- The text of a command in back quotes. -/
def unescapeBack (quotes : Bool) : List Char → List Char
  | '\\' :: c :: rest =>
    if c == '\\' || c == '$' || c == '\x60' || (quotes && c == '"') then
      c :: unescapeBack quotes rest
    else
      '\\' :: c :: unescapeBack quotes rest
  | c :: rest => c :: unescapeBack quotes rest
  | [] => []

mutual

/- The glyphs of a text as written. -/
def expandFrom (capture : Capture) :
    Nat → Frame → Shell → List Char → List Glyph × Shell
  | 0, _, sh, _ => ([], sh)
  | _ + 1, _, sh, [] => ([], sh)
  | fuel + 1, frame, sh, c :: rest =>
    let ahead (front : List Glyph) (sh : Shell) (rest : List Char) :
        List Glyph × Shell :=
      let (glyphs, sh) := expandFrom capture fuel frame sh rest
      (front ++ glyphs, sh)
    let literal : Char → Glyph :=
      if frame == .bare then .plain else .quoted
    if c == '\\' then
      match rest with
      | [] => ([.quoted c], sh)
      | '\n' :: rest => ahead [] sh rest
      | d :: rest =>
        let isEscape := match frame with
          | .bare => true
          | .quoted => "$\x60\"\\".toList.contains d
          | .here => "$\x60\\".toList.contains d
        if isEscape then ahead [.quoted d] sh rest
        else ahead [.quoted c, .quoted d] sh rest
    else if c == '"' && frame != .here then
      let (glyphs, sh) := expandFrom capture fuel
        (if frame == .bare then .quoted else .bare) sh rest
      (.anchor :: glyphs, sh)
    else if c == '\'' && frame == .bare then
      let inner := rest.takeWhile (· != '\'')
      ahead (.anchor :: inner.map .quoted) sh
        (rest.drop (inner.length + 1))
    else if c == '\x60' then
      match Script.scanBack (rest.length + 1) rest with
      | .ok (taken, rest) =>
        let (sh, bytes) :=
          capture sh (unescapeBack (frame == .quoted) taken.dropLast)
        ahead (valueGlyphs frame
          (RawByte.decode (dropFinalBreaks bytes))) sh rest
      | .error _ => ([], sh)
    else if c == '$' then
      let (front, sh, rest) := expandDollar capture fuel frame sh rest
      ahead front sh rest
    else
      ahead [literal c] sh rest

/- What a dollar sign means, with what stands behind it. -/
def expandDollar (capture : Capture) :
    Nat → Frame → Shell → List Char → List Glyph × Shell × List Char
  | 0, _, sh, rest => ([], sh, rest)
  | fuel + 1, frame, sh, rest =>
    let scanned := Script.scanDollar (2 * rest.length + 2)
      (frame != .bare) rest
    match rest with
    | '(' :: '(' :: _ =>
      match scanned with
      | .ok (taken, behind) =>
        let text := (taken.drop 2).dropLast.dropLast
        let (glyphs, sh) := expandFrom capture fuel .quoted sh text
        match sh.arithmetic (glyphs.filterMap Glyph.char?) with
        | (some n, sh) => (valueGlyphs frame (toString n), sh, behind)
        | (none, sh) => ([], sh, behind)
      | .error _ => ([], sh, [])
    | '(' :: _ =>
      match scanned with
      | .ok (taken, behind) =>
        let (sh, bytes) := capture sh (taken.drop 1).dropLast
        (valueGlyphs frame (RawByte.decode (dropFinalBreaks bytes)),
          sh, behind)
      | .error _ => ([], sh, [])
    | '\x7b' :: _ =>
      match scanned with
      | .ok (taken, behind) =>
        let (glyphs, sh) :=
          expandBraces capture fuel frame sh (taken.drop 1).dropLast
        (glyphs, sh, behind)
      | .error _ => ([], sh, [])
    | c :: behind =>
      if c == '@' then (sh.listGlyphs frame false, sh, behind)
      else if c == '*' then (sh.listGlyphs frame true, sh, behind)
      else if Numeral.isDigit c || (sh.special? c).isSome then
        match sh.parameter? (String.singleton c) with
        | some value => (valueGlyphs frame value, sh, behind)
        | none => ([], sh.missing (String.singleton c), behind)
      else
        match rest.takeWhile Script.isNameChar with
        | [] => ([.quoted '$'], sh, rest)
        | name =>
          let behind := rest.dropWhile Script.isNameChar
          match sh.valueOf? (String.ofList name) with
          | some value => (valueGlyphs frame value, sh, behind)
          | none => ([], sh.missing (String.ofList name), behind)
    | [] => ([.quoted '$'], sh, [])

/- What stands in braces behind a dollar sign. -/
def expandBraces (capture : Capture) :
    Nat → Frame → Shell → List Char → List Glyph × Shell
  | 0, _, sh, _ => ([], sh)
  | fuel + 1, frame, sh, text =>
    let valueOf (name : List Char) : Option String :=
      sh.parameter? (String.ofList name)
    let isLength : Bool := match text with
      | '#' :: c :: _ => Script.isNameChar c || "@*#?-$!".toList.contains c
      | _ => false
    if isLength && text.length == 2 && !((text.drop 1).all
        Script.isNameChar) && text != ['#', '@'] && text != ['#', '*'] then
      (valueGlyphs frame (toString ((valueOf (text.drop 1)).getD "").length),
        sh)
    else if text == ['#', '@'] || text == ['#', '*'] then
      (valueGlyphs frame (toString sh.params.length), sh)
    else if isLength && (text.drop 1).all Script.isNameChar then
      match valueOf (text.drop 1) with
      | some value =>
        (valueGlyphs frame (toString (RawByte.encode value).length), sh)
      | none =>
        (valueGlyphs frame "0",
          sh.missing (String.ofList (text.drop 1)))
    else
      let name := match text.takeWhile Script.isNameChar with
        | [] => text.take 1
        | name => name
      let isKnown := match name with
        | [c] => Script.isNameChar c || c == '@' || c == '*'
            || (sh.special? c).isSome
        | [] => false
        | c :: _ => !Numeral.isDigit c || name.all Numeral.isDigit
      let operator := text.drop name.length
      let isList := name == ['@'] || name == ['*']
      let value? :=
        if isList then
          if sh.params.isEmpty then none
          else some (Text.joinWith " " sh.params)
        else valueOf name
      let isSet (colon : Bool) : Bool :=
        match value? with
        | some value => !(colon && value.isEmpty)
        | none => false
      let own : List Glyph :=
        if isList then sh.listGlyphs frame (name == ['*'])
        else valueGlyphs frame (value?.getD "")
      let (colon, operator) := match operator with
        | ':' :: rest => (true, rest)
        | rest => (false, rest)
      let cut (longest atEnd : Bool) (word : List Char) :
          List Glyph × Shell :=
        let (glyphs, sh) := expandFrom capture fuel .bare sh word
        let sh := if value?.isNone then sh.missing (String.ofList name)
          else sh
        (valueGlyphs frame
          (dropMatching glyphs longest atEnd (value?.getD "")), sh)
      match isKnown, colon, operator with
      | false, _, _ => ([], sh.breakOff "Bad substitution")
      | _, _, '-' :: word =>
        if isSet colon then (own, sh)
        else expandFrom capture fuel frame sh word
      | _, _, '+' :: word =>
        if isSet colon then expandFrom capture fuel frame sh word
        else ([], sh)
      | _, _, '=' :: word =>
        if isSet colon then
          (own, sh)
        else
          let (glyphs, sh) := expandFrom capture fuel frame sh word
          let value := Glyph.text glyphs
          if Script.isName name then
            (valueGlyphs frame value, sh.assign (String.ofList name) value)
          else
            ([], sh.breakOff (String.ofList name ++ ": bad variable name"))
      | _, _, '?' :: word =>
        if isSet colon then (own, sh)
        else
          let (glyphs, sh) := expandFrom capture fuel frame sh word
          let text :=
            if !glyphs.isEmpty then Glyph.text glyphs
            else if colon then "parameter not set or null"
            else "parameter not set"
          ([], sh.breakOff (String.ofList name ++ ": " ++ text))
      | _, false, '#' :: '#' :: word => cut true false word
      | _, false, '#' :: word => cut false false word
      | _, false, '%' :: '%' :: word => cut true true word
      | _, false, '%' :: word => cut false true word
      | _, false, [] =>
        if value?.isSome || isList then (own, sh)
        else ([], sh.missing (String.ofList name))
      | _, _, _ => ([], sh.breakOff "Bad substitution")

end

------------------------------------------------------------
-- Words
------------------------------------------------------------

/- What a tilde and a name behind it stand for. -/
def homeOf? (sh : Shell) (name : List Char) : Option String :=
  if name.isEmpty then sh.valueOf? "HOME"
  else if name == "root".toList then some "/root"
  else none

/- A tilde at the start of a text, and what follows it. -/
def tilde (sh : Shell) (ends : List Char) (raw : RawWord) :
    List Glyph × RawWord :=
  match raw with
  | '~' :: rest =>
    let name := rest.takeWhile (fun c => !ends.contains c)
    match name.all (fun c => c.isAlphanum || c == '_' || c == '-'),
        sh.homeOf? name with
    | true, some home =>
      (.anchor :: Glyph.literal home, rest.drop name.length)
    | _, _ => ([], raw)
  | raw => ([], raw)

/- The glyphs of a word, its tilde expanded too. -/
def expandWord (capture : Capture) (sh : Shell) (raw : RawWord) :
    List Glyph × Shell :=
  let (front, raw) := sh.tilde ['/'] raw
  let (glyphs, sh) := expandFrom capture (2 * raw.length + 64) .bare sh raw
  (front ++ glyphs, sh)

/- The parts of a value between colons that are not quoted. -/
def valueParts : List Char → List Char → List RawWord
  | part, [] => [part.reverse]
  | part, c :: rest =>
    if c == ':' then part.reverse :: valueParts [] rest
    else if "\\'\"$\x60".toList.contains c then
      [part.reverse ++ c :: rest]
    else valueParts (c :: part) rest

/- The text that is assigned; tildes may stand behind colons. -/
def assignedText (capture : Capture) (sh : Shell) (raw : RawWord) :
    String × Shell :=
  let (glyphs, sh) := (valueParts [] raw).foldl
    (fun ((done : Option (List Glyph)), (sh : Shell)) part =>
      let (front, part) := sh.tilde ['/', ':'] part
      let (glyphs, sh) :=
        expandFrom capture (2 * part.length + 64) .bare sh part
      (some (match done with
        | some done => done ++ .quoted ':' :: front ++ glyphs
        | none => front ++ glyphs), sh))
    (none, sh)
  (Glyph.text (glyphs.getD []), sh)

------------------------------------------------------------
-- Fields
------------------------------------------------------------

/- A field while it is put together. -/
structure Field where
  glyphs : List Glyph
  isThere : Bool
  /- White space has ended the field before. -/
  isBehindSpace : Bool

/- A field that has not begun. -/
def Field.fresh (isBehindSpace : Bool) : Field :=
  ⟨[], false, isBehindSpace⟩

/- End a field and start a new one. -/
def endField (field : Field) (done : List (List Glyph)) :
    List (List Glyph) :=
  if field.isThere then done ++ [field.glyphs] else done

/-
  Cut glyphs into fields.  White space may stand around any
  separator; every other separator ends a field, even an
  empty one.
-/
def cutFields (separators : List Char) :
    Field → List (List Glyph) → List Glyph → List (List Glyph)
  | field, done, [] => endField field done
  | field, done, g :: rest =>
    match g with
    | .cut =>
      cutFields separators (.fresh false) (endField field done) rest
    | .anchor =>
      cutFields separators
        { field with isThere := field.isThere || !isVoid rest } done rest
    | .void => cutFields separators field done rest
    | .expanded c =>
      if !separators.contains c then
        cutFields separators ⟨field.glyphs ++ [g], true, false⟩ done rest
      else if c == ' ' || c == '\t' || c == '\n' then
        cutFields separators
          (.fresh (field.isThere || field.isBehindSpace))
          (endField field done) rest
      else if field.isBehindSpace && !field.isThere then
        cutFields separators (.fresh false) done rest
      else
        cutFields separators (.fresh false)
          (done ++ [field.glyphs]) rest
    | _ => cutFields separators ⟨field.glyphs ++ [g], true, false⟩ done rest
where
  /- Whether an empty list in quotes follows. -/
  isVoid : List Glyph → Bool
    | .void :: _ => true
    | [] => false
    | _ => false

/- Drop the closing quote behind an empty list. -/
def dropVoidQuotes : List Glyph → List Glyph
  | .anchor :: .void :: .anchor :: rest => dropVoidQuotes rest
  | g :: rest => g :: dropVoidQuotes rest
  | [] => []

/- The fields of one word. -/
def fieldsOf (capture : Capture) (sh : Shell) (raw : RawWord) :
    List String × Shell :=
  let (glyphs, sh) := expandWord capture sh raw
  let cut :=
    cutFields sh.separators (.fresh false) [] (dropVoidQuotes glyphs)
  (if sh.has 'f' then cut.map Glyph.text
    else cut.flatMap (Pattern.expand sh.world.files sh.cwd), sh)

/- The words that the words of a list become. -/
def fields (capture : Capture) :
    Shell → List RawWord → List String × Shell
  | sh, [] => ([], sh)
  | sh, raw :: rest =>
    let (words, sh) := fieldsOf capture sh raw
    let (others, sh) := fields capture sh rest
    (words ++ others, sh)

/- Commands whose arguments may be assignments. -/
def assigningCommands : List String :=
  ["alias", "export", "local", "readonly"]

/- The words that the words of a command become. -/
def commandFields (capture : Capture) :
    List String → Shell → List RawWord → List String × Shell
  | found, sh, [] => (found, sh)
  | found, sh, raw :: rest =>
    match assignment? raw,
        assigningCommands.contains (found.head?.getD "") with
    | some (name, value), true =>
      let (text, sh) := assignedText capture sh value
      commandFields capture (found ++ [name ++ "=" ++ text]) sh rest
    | _, _ =>
      let (words, sh) := fieldsOf capture sh raw
      commandFields capture (found ++ words) sh rest

/- The one text that a word becomes. -/
def oneText (capture : Capture) (sh : Shell) (raw : RawWord) :
    String × Shell :=
  let (glyphs, sh) := expandWord capture sh raw
  (Glyph.text glyphs, sh)

/- Leading assignments of a command, and its other words. -/
def splitAssignments : List RawWord →
    List (String × List Char) × List RawWord
  | [] => ([], [])
  | raw :: rest =>
    match assignment? raw with
    | some assignment =>
      let (assignments, words) := splitAssignments rest
      (assignment :: assignments, words)
    | none => ([], raw :: rest)

/- Carry out assignments, and list the values. -/
def assignAll (capture : Capture) :
    Shell → List (String × List Char) → List (String × String) × Shell
  | sh, [] => ([], sh)
  | sh, (name, raw) :: rest =>
    let (value, sh) := assignedText capture sh raw
    let sh := if sh.isBroken then sh else sh.assign name value
    let (others, sh) := assignAll capture sh rest
    ((name, value) :: others, sh)

------------------------------------------------------------
-- Redirections
------------------------------------------------------------

/- Redirect streams; the answer is none when one cannot be. -/
def redirectAll (capture : Capture) :
    Shell → List Redirection → Option Shell × Shell
  | sh, [] => (some sh, sh)
  | sh, r :: rest =>
    match r.direction with
    | .here quoted =>
      let (text, sh) :=
        if quoted then
          (String.ofList r.word, sh)
        else
          let (glyphs, sh) :=
            expandFrom capture (2 * r.word.length + 64) .here sh r.word
          (Glyph.text glyphs, sh)
      redirectAll capture (sh.feed r.stream ⟨RawByte.encode text, false⟩) rest
    | direction =>
      let (target, sh) := oneText capture sh r.word
      if sh.isBroken then (none, sh) else
      match direction with
      | .duplicate =>
        match target.toList with
        | ['-'] => redirectAll capture (sh.closeStream r.stream) rest
        | [c] =>
          let source := (Numeral.digit? 10 c).getD 10
          if sh.isOpen source then
            redirectAll capture (sh.copyStream r.stream source) rest
          else if Numeral.isDigit c then
            (none, (sh.complainAs
              (target ++ ": Bad file descriptor")).withStatus 2)
          else
            (none, sh.breakOff "Syntax error: Bad fd number")
        | _ => (none, sh.breakOff "Syntax error: Bad fd number")
      | .read =>
        match Tools.readFile sh.world sh.cwd target with
        | .ok content =>
          redirectAll capture (sh.feed r.stream ⟨content, true⟩) rest
        | .error why =>
          if target == "/dev/null" then
            redirectAll capture (sh.feed r.stream ⟨[], false⟩) rest
          else
            (none, (sh.complainAs
              ("cannot open " ++ target ++ ": "
                ++ shortReason why)).withStatus 2)
      | _ =>
        if target == "/dev/null" then
          redirectAll capture (sh.setSink r.stream .nowhere) rest
        else if direction == .write && sh.has 'C'
            && sh.world.files.isFile sh.cwd target then
          (none, (sh.complainAs
            ("cannot create " ++ target ++ ": File exists")).withStatus 2)
        else
          let change (old : List UInt8) : List UInt8 :=
            if direction == .append then old else []
          match sh.world.files.write? sh.cwd target change,
              sh.world.files.creationSite sh.cwd target
                FileTree.linkLimit with
          | .ok files, .ok loc =>
            redirectAll capture
              ({ sh with world := sh.world.withFiles files }.setSink
                r.stream (.file loc))
              rest
          | _, _ =>
            (none, (sh.complainAs
              ("cannot create " ++ target ++ ": "
                ++ creationReason sh target)).withStatus 2)
where
  /- The wording of the shell for a file that is not there. -/
  shortReason (why : String) : String :=
    if why == "No such file or directory" || why == "Not a directory" then
      "No such file"
    else why
  /- The wording of the shell for a file that cannot be made. -/
  creationReason (sh : Shell) (target : Path) : String :=
    if (sh.world.files.directory? sh.cwd target).isSome then
      "Is a directory"
    else
      match sh.world.files.locate sh.cwd target with
      | .error .tooManyLinks => reason .tooManyLinks
      | .error .tooLong => reason .tooLong
      | _ => "Directory nonexistent"

end Shell

end Sandbox

end TreeLint
