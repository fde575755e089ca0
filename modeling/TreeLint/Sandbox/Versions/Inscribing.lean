import TreeLint.Sandbox.Versions.Settings
import TreeLint.Text.Regex.Reading

/-
  Changing settings in the text that holds them.

  Key definitions include:
    * `Inscribing.Key`
    * `Inscribing.pieces?`
    * `Inscribing.Survey`
    * `Inscribing.change`
    * `Inscribing.renameSection`

  A text of settings is cut into pieces.  A new value takes the
  place of the pieces that it replaces; a new setting goes to
  the end of its section, or into a new section at the end of
  the text.  All other pieces stay as they are.  A section goes
  with its last setting, unless a comment may belong to it.
-/

------------------------------------------------------------
-- Names Of Settings
------------------------------------------------------------

namespace TreeLint

namespace Sandbox

namespace Versions

namespace Inscribing

/- The name of a setting, in parts. -/
structure Key where
  group : String
  subsection? : Option String
  name : String

namespace Key

/- The parts of a name; the code tells what is wrong with it. -/
def parse (text : String) : Attempt Key :=
  let sectionless : Attempt Key :=
    .error ⟨2, "error: key does not contain a section: " ++ text⟩
  match (Text.splitAt '.' text).reverse with
  | [] => sectionless
  | [_] => sectionless
  | name :: above =>
    match above.reverse with
    | [] => sectionless
    | group :: middle =>
      let isFine := (name.toList.head?).any Char.isAlpha
        && name.toList.all Settings.isNameChar
        && group.toList.all Settings.isNameChar
      if group.isEmpty && middle.isEmpty then sectionless
      else if name.isEmpty then
        .error ⟨2, "error: key does not contain variable name: " ++ text⟩
      else if !isFine || text.contains '\n' then
        .error ⟨1, "error: invalid key: " ++ text⟩
      else
        .ok ⟨group,
          if middle.isEmpty then none
          else some (Text.joinWith "." middle), name⟩

/- The section of a name as settings are looked up. -/
def front (key : Key) : String :=
  match key.subsection? with
  | some inner => key.group.toLower ++ "." ++ inner
  | none => key.group.toLower

/- The whole name as settings are looked up. -/
def full (key : Key) : String :=
  key.front ++ "." ++ key.name.toLower

end Key

/- The header of a section. -/
def headerOf (group : String) (subsection? : Option String) : String :=
  match subsection? with
  | some inner =>
    let escaped := String.ofList (inner.toList.flatMap fun c =>
      if c == '"' || c == '\\' then ['\\', c] else [c])
    "[" ++ group ++ " \"" ++ escaped ++ "\"]\n"
  | none => "[" ++ group ++ "]\n"

/- A value as it is written. -/
def quoted (value : String) : String :=
  let needs := value.startsWith " " || value.endsWith " "
    || value.toList.any (fun c => c == ';' || c == '#' || c == '\r')
  let escaped := value.toList.flatMap fun c =>
    if c == '\n' then ['\\', 'n']
    else if c == '\t' then ['\\', 't']
    else if c == '"' || c == '\\' then ['\\', c]
    else [c]
  if needs then "\"" ++ String.ofList escaped ++ "\""
  else String.ofList escaped

/- The line that gives a setting a value. -/
def lineOf (key : Key) (value : String) : String :=
  "\t" ++ key.name ++ " = " ++ quoted value ++ "\n"

------------------------------------------------------------
-- Pieces
------------------------------------------------------------

/- What a piece of a text is. -/
inductive Content where
  | blank
  | comment
  /- A header; the flag says that its letters may be large or small. -/
  | header (name : String) (foldsCase : Bool)
  | entry (setting : Setting)
deriving DecidableEq, Repr

/- A piece of a text, and where it lies. -/
structure Piece where
  content : Content
  start : Nat
  stop : Nat
deriving DecidableEq, Repr

namespace Piece

/- Whether a piece is a setting. -/
def isEntry (p : Piece) : Bool :=
  match p.content with
  | .entry _ => true
  | _ => false

/- Whether a piece is the header of a section. -/
def isHeaderOf (front : String) (p : Piece) : Bool :=
  match p.content with
  | .header name folds =>
    if folds then name.toLower == front.toLower else name == front
  | _ => false

/- Whether a piece is a header. -/
def isHeader (p : Piece) : Bool :=
  match p.content with
  | .header _ _ => true
  | _ => false

end Piece

/-
  Cut a text without carriage returns; every piece comes with
  the number of characters that are left where it begins.
-/
def cut? : Nat → Option String → List Char → Option (List (Content × Nat))
  | 0, _, _ => none
  | _ + 1, _, [] => some []
  | fuel + 1, section', c :: rest =>
    let left := rest.length + 1
    if Settings.isSpace c then
      (cut? fuel section' rest).map ((.blank, left) :: ·)
    else if c == '#' || c == ';' then
      (cut? fuel section' (rest.dropWhile (· != '\n'))).map
        ((.comment, left) :: ·)
    else if c == '[' then
      match Settings.header? rest with
      | some (name, behind) =>
        let head := rest.take (rest.length - behind.length)
        if name.isEmpty then none
        else
          (cut? fuel (some name) behind).map
            ((.header name (!head.contains '"'), left) :: ·)
      | none => none
    else if !c.isAlpha then none
    else
      let key := c :: rest.takeWhile Settings.isNameChar
      let front := match section' with
        | some opened => opened ++ "."
        | none => ""
      let name := front ++ (String.ofList key).toLower
      let behind := (rest.drop (key.length - 1)).dropWhile
        (fun c => c == ' ' || c == '\t')
      match behind with
      | [] => some [(.entry ⟨name, none⟩, left)]
      | '\n' :: rest =>
        (cut? fuel section' rest).map ((.entry ⟨name, none⟩, left) :: ·)
      | '=' :: rest =>
        match Settings.value? false 0 true rest with
        | some (value, rest) =>
          (cut? fuel section' rest).map
            ((.entry ⟨name, some (String.ofList value)⟩, left) :: ·)
        | none => none
      | _ => none

/- White space that stands together makes one piece. -/
def merged : List (Content × Nat) → List (Content × Nat)
  | (.blank, left) :: rest =>
    (.blank, left) :: merged (rest.dropWhile (fun (c, _) => c == .blank))
  | piece :: rest => piece :: merged rest
  | [] => []
termination_by pieces => pieces.length
decreasing_by
  · simp only [List.length_cons]
    exact Nat.lt_succ_of_le (List.dropWhile_sublist _).length_le
  · simp

/- Where the characters of a text without carriage returns come from. -/
def origins : Nat → List Char → List Nat
  | n, '\r' :: '\n' :: rest => (n + 1) :: origins (n + 2) rest
  | n, _ :: rest => n :: origins (n + 1) rest
  | _, [] => []

/- Pieces that end where the next one begins. -/
def closed (size : Nat) : List (Content × Nat) → List Piece
  | [] => []
  | [(content, start)] => [⟨content, start, size⟩]
  | (content, start) :: (next, stop) :: rest =>
    ⟨content, start, stop⟩ :: closed size ((next, stop) :: rest)

/- The pieces of a text; `none` if it is malformed. -/
def pieces? (text : List Char) : Option (List Piece) :=
  let (skipped, body) := match text with
    | '\uFEFF' :: rest => (1, rest)
    | chars => (0, chars)
  let plain := Settings.plainLines body
  let places := (origins skipped body).toArray
  (cut? (plain.length + 1) none plain).map fun found =>
    closed text.length ((merged found).map fun (content, left) =>
      (content, places.getD (plain.length - left) text.length))

------------------------------------------------------------
-- Looking For Settings
------------------------------------------------------------

/- Which values of a setting are meant. -/
inductive Wanted where
  | every
  | never
  | exactly (value : String)
  /- Values that a pattern fits, or those that it does not fit. -/
  | fitting (pattern : Regex) (isNegated : Bool)

namespace Wanted

/- Whether a pattern fits somewhere in a value. -/
def fits (pattern : Regex) (value : String) : Bool :=
  pattern.isIn ⟨value.toList.toArray, false, false⟩

/- Whether a value is meant. -/
def covers (wanted : Wanted) (value? : Option String) : Bool :=
  match wanted, value? with
  | .every, _ => true
  | .never, _ => false
  | .exactly text, some value => value == text
  | .exactly _, none => true
  | .fitting pattern isNegated, some value =>
    fits pattern value != isNegated
  | .fitting _ isNegated, none => isNegated

end Wanted

/- What a text has of a setting. -/
structure Survey where
  pieces : List Piece
  /- The pieces that hold the setting. -/
  found : List Nat
  /- The piece behind which a new setting goes. -/
  place? : Option Nat
  hasSection : Bool

/- Look for a setting. -/
def survey (pieces : List Piece) (key : Key) (wanted : Wanted) : Survey :=
  let isMeant (p : Piece) : Bool :=
    match p.content with
    | .entry setting =>
      setting.name == key.full && wanted.covers setting.value
    | _ => false
  let (found, place?, _) := pieces.zipIdx.foldl
    (fun ((found, place?, isInside) : List Nat × Option Nat × Bool) (p, n) =>
      if p.isHeader then
        let isOurs := p.isHeaderOf key.front
        (found,
          if isOurs && found.isEmpty then some n else place?, isOurs)
      else if isMeant p && (isInside || !found.isEmpty) then
        (n :: found, place?, isInside)
      else if p.isEntry && isInside && found.isEmpty then
        (found, some n, isInside)
      else (found, place?, isInside))
    ([], none, false)
  ⟨pieces, found.reverse, place?,
    pieces.any (Piece.isHeaderOf key.front)⟩

------------------------------------------------------------
-- Sections That Become Empty
------------------------------------------------------------

/-
  Where a section begins of which a setting is the first one.
  The pieces before it are given, the nearest first.
-/
def sectionStart? (front : String) (own : Nat) :
    Bool → List Piece → Option Nat
  | _, [] => some own
  | hasHeader, p :: above =>
    match p.content with
    | .comment => none
    | .entry _ => if hasHeader then some own else none
    | .header _ _ =>
      if p.isHeaderOf front then sectionStart? front p.start true above
      else some own
    | .blank => sectionStart? front p.start hasHeader above

/-
  Where a section ends if all settings that are left in it are
  taken away; the numbers of pieces to take are given, and the
  numbers that are left come out.
-/
def sectionStop? (front : String) :
    List Nat → List (Piece × Nat) → Option (Option Nat × List Nat)
  | doomed, [] => some (none, doomed)
  | doomed, (p, n) :: below =>
    match p.content with
    | .comment => none
    | .header _ _ =>
      if p.isHeaderOf front then sectionStop? front doomed below
      else some (some p.start, doomed)
    | .entry _ =>
      match doomed with
      | next :: rest =>
        if next == n then sectionStop? front rest below else none
      | [] => none
    | .blank => sectionStop? front doomed below

/-
  The part of a text that goes with a setting if its section
  becomes empty, and the settings that are still to be taken.
-/
def emptied? (front : String) (pieces : List Piece) (n : Nat)
    (doomed : List Nat) : Option (Nat × Nat × List Nat) :=
  let own := match pieces[n]? with
    | some p => p.start
    | none => 0
  match sectionStart? front own false (pieces.take n).reverse,
      sectionStop? front doomed (pieces.zipIdx.drop (n + 1)) with
  | some start, some (stop?, rest) =>
    let stop := stop?.getD
      (match pieces.getLast? with
        | some p => p.stop
        | none => 0)
    some (start, stop, rest)
  | _, _ => none

------------------------------------------------------------
-- Changing Settings
------------------------------------------------------------

/- The end of a text without white space at the end of its last line. -/
def withoutIndent (text : List Char) : List Char :=
  (text.reverse.dropWhile
    (fun c => Settings.isSpace c && c != '\n')).reverse

/- A part of a text, with a line feed at its end. -/
def part (text : List Char) (start stop : Nat) : List Char :=
  let taken := (text.take stop).drop start
  if taken.isEmpty || taken.getLast? == some '\n' then taken
  else taken ++ ['\n']

/-
  The text up to what comes in the place of settings, with the
  place from where it goes on.
-/
def cleared (text : List Char) (front : String) (pieces : List Piece)
    (takesAway : Bool) : Nat → Nat → List Nat → List Char × Nat
  | _, start, [] => ([], start)
  | 0, start, _ => ([], start)
  | fuel + 1, start, n :: rest =>
    let p := pieces.getD n ⟨.blank, 0, 0⟩
    let (stop, next, rest) :=
      match takesAway, emptied? front pieces n rest with
      | true, some (stop, next, rest) => (stop, next, rest)
      | _, _ => (p.start, p.stop, rest)
    let stop := (withoutIndent (text.take stop)).length
    let (more, last) := cleared text front pieces takesAway fuel next rest
    (part text start stop ++ more, last)

/- The place behind a piece, with the end of its line. -/
def behind (text : List Char) (stop : Nat) : Nat :=
  if 0 < stop && text[stop - 1]? != some '\n' && text[stop]? == some '\n'
  then stop + 1
  else stop

/- How a change of a text may fail. -/
inductive Fault where
  | malformed
  /- There is nothing to take away, or too much to be replaced. -/
  | unsettled
deriving DecidableEq, Repr

/-
  Let a setting have a value, or none at all.  The flag says
  that there may be more than one to be replaced.
-/
def change (text : String) (key : Key) (value? : Option String)
    (wanted : Wanted) (isMany : Bool) : Except Fault String :=
  let chars := text.toList
  match pieces? chars with
  | none => .error .malformed
  | some pieces =>
    let s := survey pieces key wanted
    if (s.found.isEmpty && value?.isNone)
        || (1 < s.found.length && !isMany) then .error .unsettled
    else
      let (before, start) :=
        if s.found.isEmpty then
          let stop := match s.place? with
            | some n => (pieces.getD n ⟨.blank, 0, 0⟩).stop
            | none =>
              match pieces.getLast? with
              | some p => p.stop
              | none => 0
          let stop := behind chars stop
          (part chars 0 stop, stop)
        else
          cleared chars key.front pieces value?.isNone
            (s.found.length + 1) 0 s.found
      let inserted := match value? with
        | none => ""
        | some value =>
          (if s.hasSection then ""
            else headerOf key.group key.subsection?) ++ lineOf key value
      .ok (String.ofList before ++ inserted
        ++ String.ofList (chars.drop start))

/- Add a setting, whether it is there or not. -/
def append (text : String) (key : Key) (value : String) : String :=
  (change text key (some value) .never false).toOption.getD text

/- Let a setting have a value, and no other one. -/
def write (text : String) (key : Key) (value : String) : String :=
  (change text key (some value) .every true).toOption.getD text

/- Take all settings of a name away. -/
def erase (text : String) (key : Key) : String :=
  (change text key none .every true).toOption.getD text

------------------------------------------------------------
-- Whole Sections
------------------------------------------------------------

/-
  What is left of a header behind the name of a section, if it
  is the header of the section.  The flag says that the name
  inside quotes has begun.
-/
def headed? : Nat → Bool → List Char → List Char → Option (List Char)
  | fuel + 1, isInner, name, c :: rest =>
    if c == ']' then if name.isEmpty then some rest else none
    else if !isInner && Settings.isSpace c then
      match name, rest.dropWhile Settings.isSpace with
      | '.' :: name, '"' :: rest => headed? fuel true name rest
      | _, _ => none
    else if isInner && c == '"' then
      match name, rest.dropWhile Settings.isSpace with
      | [], ']' :: rest => some rest
      | _, _ => none
    else
      match isInner && c == '\\', name, rest with
      | true, n :: name, d :: rest =>
        if n == d then headed? fuel isInner name rest else none
      | false, n :: name, rest =>
        if n == c then headed? fuel isInner name rest else none
      | _, _, _ => none
  | _, _, _, _ => none

/- The lines of a text, each with the feed that ends it. -/
def linesOf (text : List Char) : List (List Char) :=
  let lines := Text.pieces (· == '\n') text
  (lines.dropLast.map (· ++ ['\n']))
    ++ (lines.getLast?.filter (fun line => !line.isEmpty)).toList

/-
  Give a section another name, or take it away; the flag says
  that lines are being taken away.  The sections are counted.
-/
def relabelled (name : List Char) (header? : Option String) :
    Bool → List (List Char) → List Char × Nat
  | _, [] => ([], 0)
  | isDoomed, line :: rest =>
    let text := line.dropWhile Settings.isSpace
    match text with
    | '[' :: behind =>
      match headed? (line.length + 1) false name behind, header? with
      | some _, none =>
        let (more, n) := relabelled name header? true rest
        (more, n + 1)
      | some left, some header =>
        let left := left.dropWhile Settings.isSpace
        let line := header.toList
          ++ (if left.isEmpty then [] else '\t' :: left)
        let (more, n) := relabelled name header? false rest
        (line ++ more, n + 1)
      | none, _ =>
        let (more, n) := relabelled name header? false rest
        (line ++ more, n)
    | _ =>
      let (more, n) := relabelled name header? isDoomed rest
      (if isDoomed then more else line ++ more, n)

/- The group of a section, and the name inside of it. -/
def sectionParts (name : String) : String × Option String :=
  match Text.splitAt '.' name with
  | group :: first :: rest =>
    (group, some (Text.joinWith "." (first :: rest)))
  | _ => (name, none)

/- Give a section another name, or take it away. -/
def renameSection (text name : String) (new? : Option String) :
    String × Nat :=
  let header? := new?.map fun new =>
    let (group, subsection?) := sectionParts new
    headerOf group subsection?
  let (chars, n) := relabelled name.toList header? false (linesOf text.toList)
  (String.ofList chars, n)

/- Take a section away. -/
def eraseSection (text name : String) : String :=
  (renameSection text name none).1

/- Whether a section may have a name. -/
def isGoodSection (name : String) : Bool :=
  !name.isEmpty
    && ((Text.splitAt '.' name).head?.getD "").toList.all
      Settings.isNameChar

end Inscribing

end Versions

end Sandbox

end TreeLint
