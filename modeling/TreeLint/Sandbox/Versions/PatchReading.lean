import TreeLint.Sandbox.Versions.Joining
import TreeLint.Text.Quoting

/-
  Reading patches.

  Key definitions include:
    * `Fragment`
    * `FilePatch`
    * `PatchReading.Manner`
    * `PatchReading.read`

  A patch tells for each of some files which lines go and which
  ones come, with some lines around them.  A header may tell
  more: other names, other modes, and whether a file is new.
  Text between the patches is passed over.
-/

------------------------------------------------------------
-- Patches
------------------------------------------------------------

namespace TreeLint

namespace Sandbox

namespace Versions

open Joining (Line)

/- On which sides of a patch a line is. -/
inductive LineSide where
  | both
  | old
  | new
deriving DecidableEq, Repr

/- Lines of a file that are replaced by others. -/
structure Fragment where
  oldStart : Nat
  newStart : Nat
  lines : List (LineSide × Line)
  /- The line of the patch that it starts on. -/
  number : Nat
deriving Repr

namespace Fragment

/- The lines that are looked for. -/
def old (f : Fragment) : List Line :=
  (f.lines.filter (fun (side, _) => side != .new)).map Prod.snd

/- The lines that come in their place. -/
def new (f : Fragment) : List Line :=
  (f.lines.filter (fun (side, _) => side != .old)).map Prod.snd

/- How many lines at the start are on both sides. -/
def leading (f : Fragment) : Nat :=
  (f.lines.takeWhile (fun (side, _) => side == .both)).length

/- How many lines at the end are on both sides. -/
def trailing (f : Fragment) : Nat :=
  (f.lines.reverse.takeWhile (fun (side, _) => side == .both)).length

/- The fragment that takes another one back. -/
def reversed (f : Fragment) : Fragment :=
  { f with
    oldStart := f.newStart
    newStart := f.oldStart
    lines := f.lines.map fun (side, line) =>
      (match side with
        | .both => .both
        | .old => .new
        | .new => .old, line) }

end Fragment

/- What a patch does to one file. -/
structure FilePatch where
  oldName? : Option Path
  newName? : Option Path
  /- Whether the file is new, if that is known. -/
  isNew? : Option Bool
  isGone? : Option Bool
  isRenamed : Bool
  isCopied : Bool
  oldMode? : Option String
  newMode? : Option String
  /- The beginnings of the digests of both contents. -/
  oldId : String
  newId : String
  fragments : List Fragment
  isBinary : Bool
  /- Names are meant from the top of the work tree. -/
  isFromTop : Bool
deriving Repr

namespace FilePatch

/- The patch about nothing. -/
def empty : FilePatch :=
  ⟨none, none, none, none, false, false, none, none, "", "", [], false,
    false⟩

/- Whether a file is new for sure. -/
def isNew (p : FilePatch) : Bool := p.isNew? == some true

/- Whether a file is removed for sure. -/
def isGone (p : FilePatch) : Bool := p.isGone? == some true

/- The name that the patch goes by. -/
def name (p : FilePatch) : Path :=
  (p.oldName?.orElse fun _ => p.newName?).getD ""

/- Whether more than the content changes. -/
def changesMore (p : FilePatch) : Bool :=
  p.isRenamed || p.isCopied || p.isNew || p.isGone
    || (p.oldMode?.isSome && p.newMode?.isSome && p.oldMode? != p.newMode?)

/- How many lines come and go. -/
def changedLines (p : FilePatch) : Nat :=
  (p.fragments.map fun f =>
    (f.lines.filter (fun (side, _) => side != .both)).length).foldl (· + ·) 0

/- The patch that takes another one back. -/
def reversed (p : FilePatch) : FilePatch :=
  { p with
    oldName? := p.newName?
    newName? := p.oldName?
    isNew? := p.isGone?
    isGone? := p.isNew?
    oldMode? := p.newMode?
    newMode? := p.oldMode?
    oldId := p.newId
    newId := p.oldId
    fragments := p.fragments.map Fragment.reversed }

end FilePatch

------------------------------------------------------------
-- Names
------------------------------------------------------------

namespace PatchReading

/- How patches are read. -/
structure Manner where
  /- How many parts of a name are dropped. -/
  strip : Nat
  isStripKnown : Bool
  /- A directory that is put in front of all names. -/
  root : Path
  /- The way from the top to the working directory. -/
  place : Path
  /- The counts of lines are not believed. -/
  recounts : Bool
  /- There may be no lines around changes. -/
  isBare : Bool
  /- The patch is going to be applied. -/
  isInEarnest : Bool

/- The name of no file. -/
def nullName : List Char := "/dev/null".toList

/- Whether a text names no file. -/
def isNull (chars : List Char) : Bool :=
  nullName.isPrefixOf chars
    && (chars.drop nullName.length).head?.all Octet.isSpace

/- A name in which slashes stand alone. -/
def squashed : List Char → List Char
  | '/' :: '/' :: rest => squashed ('/' :: rest)
  | c :: rest => c :: squashed rest
  | [] => []

/- What stands behind a number of slashes. -/
def behindSlashes : Nat → List Char → Option (List Char)
  | 0, chars => some chars
  | _ + 1, [] => none
  | count + 1, '/' :: rest =>
    if count == 0 then some rest else behindSlashes count rest
  | count + 1, _ :: rest => behindSlashes (count + 1) rest

/- The bytes of characters as a path. -/
def pathOf (chars : List Char) : Path :=
  RawByte.decode (Octet.encode chars)

/- A name with a directory in front, if there is a name. -/
def placed (m : Manner) (chars : List Char) : Option Path :=
  if chars.isEmpty then none
  else some (m.root ++ pathOf (squashed chars))

/- The name at the start of a text, with some parts dropped. -/
def name? (m : Manner) (strip : Nat) (endsAtTab : Bool)
    (chars : List Char) : Option Path :=
  match chars with
  | '"' :: rest =>
    ((Quoting.read? rest).bind fun (inner, _) =>
      behindSlashes strip inner).bind (placed m)
  | chars =>
    let plain := chars.takeWhile fun c =>
      c != '\n' && !(endsAtTab && c == '\t')
    (behindSlashes strip plain).bind (placed m)

/- A name without the parts in front, as headers have it. -/
def headerRest? (strip : Nat) (chars : List Char) : Option (List Char) :=
  if strip == 0 then
    if chars.head? == some '/' then none else some chars
  else if chars.head? == some '/' then
    (behindSlashes strip chars).bind fun rest =>
      if strip == 1 then none else some rest
  else behindSlashes strip chars

/- The one name that two plain names in a header agree on. -/
def agreed? (strip : Nat) (name : List Char) :
    Nat → List Char → List Char → Option (List Char)
  | 0, _, _ => none
  | _ + 1, _, [] => none
  | _ + 1, _, '\n' :: _ => none
  | fuel + 1, seen, c :: rest =>
    if c == ' ' || c == '\t' then
      let seen' := seen.reverse
      match headerRest? strip rest with
      | some second =>
        if second == seen' ++ ['\n'] then some seen'
        else agreed? strip name fuel (c :: seen) rest
      | none => none
    else agreed? strip name fuel (c :: seen) rest

/- The name that the first line of a header tells. -/
def headerName? (m : Manner) (chars : List Char) : Option Path :=
  let found := match chars with
    | '"' :: rest =>
      match Quoting.read? rest with
      | none => none
      | some (first, behind) =>
        (headerRest? m.strip first).bind fun first =>
          let behind := behind.dropWhile Octet.isSpace
          let second? := match behind with
            | '"' :: rest => (Quoting.read? rest).map Prod.fst
            | plain => some (plain.takeWhile (· != '\n'))
          if (second?.bind (headerRest? m.strip)) == some first then
            some first
          else none
    | chars =>
      (headerRest? m.strip chars).bind fun name =>
        let front := name.takeWhile (fun c => c != '"' && c != '\n')
        match name.drop front.length with
        | '"' :: rest =>
          ((Quoting.read? rest).bind fun (inner, _) =>
            headerRest? m.strip inner).bind fun second =>
              if front == second ++ [' '] || front == second ++ ['\t'] then
                some second
              else none
        | _ => agreed? m.strip name (name.length + 1) [] name
  found.bind (placed m)

------------------------------------------------------------
-- Headers
------------------------------------------------------------

/- Something is wrong with a patch as a whole. -/
def broken {α : Type} (text : String) : Attempt α :=
  .error ⟨128, "error: " ++ text⟩

/- The characters of a line, a byte each. -/
def charsOf (line : Line) : List Char :=
  Octet.decode line

/- What stands behind some text at the start of a line. -/
def behind? (front : String) (chars : List Char) : Option (List Char) :=
  if front.toList.isPrefixOf chars then some (chars.drop front.length)
  else none

/- The mode that digits tell. -/
def modeOf? (chars : List Char) : Option String :=
  let digits := chars.takeWhile (· != '\n')
  (Numeral.natural? 8 digits).map fun _ => String.ofList digits

/- Take the name of one side over, or check that it is the same. -/
def withSide (m : Manner) (number : Nat) (isMissing : Bool)
    (before? : Option Path) (chars : List Char) :
    Attempt (Option Path) :=
  let found := name? m m.strip true chars
  match before?, isMissing with
  | none, false => .ok found
  | none, true =>
    if isNull chars then .ok none
    else broken ("git apply: bad git-diff - expected /dev/null on line "
      ++ toString number)
  | some before, true =>
    broken ("git apply: bad git-diff - expected /dev/null, got "
      ++ before ++ " on line " ++ toString number)
  | some before, false =>
    if found == some before then .ok (some before)
    else broken ("git apply: bad git-diff - inconsistent filename on line "
      ++ toString number)

/- The digests on a line of a header, and the mode behind them. -/
def withDigests (p : FilePatch) (chars : List Char) : FilePatch :=
  let line := String.ofList (chars.takeWhile (· != '\n'))
  match Text.splitAt ' ' line with
  | ids :: rest =>
    match ids.splitOn ".." with
    | [old, new] =>
      let mode? := rest.head?.bind fun mode => modeOf? mode.toList
      { p with
        oldId := old
        newId := new
        oldMode? := mode?.orElse fun _ => p.oldMode? }
    | _ => p
  | [] => p

/- What a line of a header says; nothing if it is no such line. -/
def headerLine (m : Manner) (number : Nat) (given? : Option Path)
    (p : FilePatch) (line : Line) : Attempt (Option FilePatch) := do
  let chars := charsOf line
  if chars.getLast? != some '\n' then return none
  let moved := m.strip - 1
  match behind? "--- " chars, behind? "+++ " chars with
  | some rest, _ =>
    let oldName? ← withSide m number p.isNew p.oldName? rest
    return some { p with oldName? }
  | none, some rest =>
    let newName? ← withSide m number p.isGone p.newName? rest
    return some { p with newName? }
  | none, none =>
    if (behind? "@@ -" chars).isSome then return none
    match behind? "old mode " chars, behind? "new mode " chars with
    | some rest, _ => return some { p with oldMode? := modeOf? rest }
    | none, some rest => return some { p with newMode? := modeOf? rest }
    | none, none =>
      match behind? "deleted file mode " chars,
          behind? "new file mode " chars with
      | some rest, _ =>
        return some { p with
          isGone? := some true
          oldName? := given?
          oldMode? := modeOf? rest }
      | none, some rest =>
        return some { p with
          isNew? := some true
          newName? := given?
          newMode? := modeOf? rest }
      | none, none =>
        let from? := (behind? "rename from " chars).orElse fun _ =>
          behind? "rename old " chars
        let to? := (behind? "rename to " chars).orElse fun _ =>
          behind? "rename new " chars
        match from?, to? with
        | some rest, _ =>
          return some { p with
            isRenamed := true
            oldName? := name? m moved false rest }
        | none, some rest =>
          return some { p with
            isRenamed := true
            newName? := name? m moved false rest }
        | none, none =>
          match behind? "copy from " chars, behind? "copy to " chars with
          | some rest, _ =>
            return some { p with
              isCopied := true
              oldName? := name? m moved false rest }
          | none, some rest =>
            return some { p with
              isCopied := true
              newName? := name? m moved false rest }
          | none, none =>
            if (behind? "similarity index " chars).isSome
                || (behind? "dissimilarity index " chars).isSome then
              return some p
            return (behind? "index " chars).map (withDigests p)

/-
  The rest of a header, with how many lines it has and the
  lines behind it.
-/
def headerLines (m : Manner) (given? : Option Path) :
    Nat → FilePatch → List Line → Attempt (FilePatch × Nat × List Line)
  | number, p, [] => .ok (p, number, [])
  | number, p, line :: rest => do
    match ← headerLine m number given? p line with
    | some p =>
      if p.isNew && p.isGone then
        broken ("inconsistent header lines " ++ toString number)
      headerLines m given? (number + 1) p rest
    | none => return (p, number, line :: rest)

/- Check that a header tells the names that it has to tell. -/
def withNames (number : Nat) (given? : Option Path) (p : FilePatch) :
    Attempt FilePatch :=
  match p.oldName?, p.newName?, given? with
  | none, none, none =>
    broken ("git diff header lacks filename information when removing "
      ++ "leading pathname components (line " ++ toString number ++ ")")
  | none, none, some name =>
    .ok { p with oldName? := some name, newName? := some name }
  | oldName?, newName?, _ =>
    if (newName?.isNone && !p.isGone) || (oldName?.isNone && !p.isNew) then
      broken ("git diff header lacks filename information (line "
        ++ toString number ++ ")")
    else .ok p

/- How many parts a plain name in a header seems to have in front. -/
def guessedStrip? (m : Manner) (chars : List Char) : Option Nat :=
  if isNull chars then none
  else
    (name? { m with root := "" } 0 true chars).bind fun name =>
      if !name.contains '/' then some 0
      else if m.place.isEmpty then none
      else if name.startsWith m.place then
        some (m.place.toList.filter (· == '/')).length
      else
        let inner := String.ofList
          ((name.toList.dropWhile (· != '/')).drop 1)
        if inner.startsWith m.place then
          some ((m.place.toList.filter (· == '/')).length + 1)
        else none

/- Whether the time behind a name is that of the very beginning. -/
def isFromBeginning (chars : List Char) : Bool :=
  let time := (chars.dropWhile (fun c => c != '\t' && c != '\n')).drop 1
  ["1970-01-01 00:00:00", "1969-12-31 "].any fun start =>
    start.toList.isPrefixOf time

/- The patch that two plain lines with names announce. -/
def plainHeader (m : Manner) (number : Nat) (old new : List Char) :
    Attempt (Manner × FilePatch) :=
  let guess? := match guessedStrip? m old, guessedStrip? m new with
    | none, q => q
    | some p, some q => if p == q then some p else none
    | some _, none => none
  let m := match m.isStripKnown, guess? with
    | false, some p => { m with strip := p, isStripKnown := true }
    | _, _ => m
  let nameOf (chars : List Char) : Option Path := name? m m.strip true chars
  let p := FilePatch.empty
  let both := nameOf new
  let shorter? := match nameOf old, both with
    | some a, some b => some (if b.startsWith a then a else b)
    | a, none => a
    | none, b => b
  let (name?, p) :=
    if isNull old then
      (both, { p with isNew? := some true, isGone? := some false,
                      newName? := both })
    else if isNull new then
      let name? := nameOf old
      (name?, { p with isNew? := some false, isGone? := some true,
                       oldName? := name? })
    else if isFromBeginning old then
      (shorter?, { p with isNew? := some true, isGone? := some false,
                          newName? := shorter? })
    else if isFromBeginning new then
      (shorter?, { p with isNew? := some false, isGone? := some true,
                          oldName? := shorter? })
    else
      (shorter?, { p with oldName? := shorter?, newName? := shorter? })
  match name? with
  | some _ => .ok (m, p)
  | none =>
    broken ("unable to find filename in patch at line " ++ toString number)

------------------------------------------------------------
-- Fragments
------------------------------------------------------------

/- A number, and what stands behind it. -/
def number? (chars : List Char) : Option (Nat × List Char) :=
  let digits := chars.takeWhile Numeral.isDigit
  if digits.isEmpty then none
  else
    (Numeral.natural? 10 digits).map fun n =>
      (n, chars.drop digits.length)

/- Where lines start and how many there are. -/
def range? (chars : List Char) : Option (Nat × Nat × List Char) :=
  match number? chars with
  | some (start, ',' :: rest) =>
    (number? rest).map fun (count, rest) => (start, count, rest)
  | some (start, rest) => some (start, 1, rest)
  | none => none

/- The head of a fragment. -/
structure Head where
  oldStart : Nat
  oldCount : Nat
  newStart : Nat
  newCount : Nat

/- The head of a fragment that a line is. -/
def head? (line : Line) : Option Head := do
  let rest ← behind? "@@ -" (charsOf line)
  let (oldStart, oldCount, rest) ← range? rest
  let rest ← behind? " +" rest
  let (newStart, newCount, rest) ← range? rest
  let _ ← behind? " @@" rest
  return ⟨oldStart, oldCount, newStart, newCount⟩

/- Whether a line remarks that the line before it does not end. -/
def isRemark (line : Line) : Bool :=
  12 ≤ line.length && line.head? == some 92 && (line)[1]? == some 32

/- The counts of the lines up to what is no part of a fragment. -/
def recounted : List Line → Nat × Nat
  | [] => (0, 0)
  | line :: rest =>
    let next (old new : Nat) : Nat × Nat :=
      let (a, b) := recounted rest
      (a + old, b + new)
    match line with
    | 32 :: _ => next 1 1
    | 10 :: _ => next 1 1
    | 45 :: more =>
      if more.take 2 == [45, 32] || more == [32, 10] then (0, 0)
      else next 1 0
    | 43 :: _ => next 0 1
    | 92 :: _ => next 0 0
    | _ => (0, 0)

/- A line without its line feed. -/
def unended (line : Line) : Line :=
  if line.getLast? == some 10 then line.dropLast else line

/- Take the line feed off the last of some lines. -/
def withoutLast (lines : List (LineSide × Line)) : List (LineSide × Line) :=
  match lines with
  | (side, line) :: rest => (side, unended line) :: rest
  | [] => []

/-
  The lines of a fragment, the last ones first, as many as are
  to come; nothing if there is something else between them.
-/
def body? : Nat → Nat → List (LineSide × Line) → List Line →
    Option (List (LineSide × Line) × List Line)
  | 0, 0, done, rest =>
    match rest with
    | line :: behind =>
      if isRemark line then some (withoutLast done, behind)
      else some (done, rest)
    | [] => some (done, [])
  | _, _, _, [] => none
  | old, new, done, line :: rest =>
    if line.getLast? != some 10 then none
    else
      match line, old, new with
      | [10], old + 1, new + 1 => body? old new ((.both, [10]) :: done) rest
      | 32 :: text, old + 1, new + 1 =>
        body? old new ((.both, text) :: done) rest
      | 45 :: text, old + 1, new => body? old new ((.old, text) :: done) rest
      | 43 :: text, old, new + 1 => body? old new ((.new, text) :: done) rest
      | 92 :: _, old, new =>
        if isRemark line then body? old new (withoutLast done) rest
        else none
      | _, _, _ => none

/- The fragments at the start of some lines, and the lines behind. -/
def fragments (m : Manner) : Nat → Nat → List Line →
    Attempt (List Fragment × Nat × List Line)
  | 0, number, rest => .ok ([], number, rest)
  | _, number, [] => .ok ([], number, [])
  | fuel + 1, number, line :: rest =>
    if (behind? "@@ -" (charsOf line)).isNone then
      .ok ([], number, line :: rest)
    else
      let corrupt {α : Type} : Attempt α :=
        broken ("corrupt patch at line " ++ toString number)
      match head? line with
      | none => corrupt
      | some head =>
        let (oldCount, newCount) :=
          if m.recounts then recounted rest
          else (head.oldCount, head.newCount)
        match body? oldCount newCount [] rest with
        | none => corrupt
        | some (lines, behind) =>
          let lines := lines.reverse
          if !m.recounts && lines.all (fun (side, _) => side == .both) then
            corrupt
          else do
            let next := number + 1 + (rest.length - behind.length)
            let (more, number', behind) ← fragments m fuel next behind
            return (⟨head.oldStart, head.newStart, lines, number⟩ :: more,
              number', behind)

/- Check what a patch says about a file against its lines. -/
def withFragments (p : FilePatch) (found : List Fragment) :
    Attempt FilePatch :=
  let hasOld := found.any (fun f => !f.old.isEmpty)
  let hasNew := found.any (fun f => !f.new.isEmpty)
  let isNew? := if p.isNew?.isNone && (hasOld || 1 < found.length) then
      some false
    else p.isNew?
  let isGone? := if p.isGone?.isNone && (hasNew || 1 < found.length) then
      some false
    else p.isGone?
  if isNew? == some true && hasOld then
    broken ("new file " ++ p.newName?.getD "" ++ " depends on old contents")
  else if isGone? == some true && hasNew then
    broken ("deleted file " ++ p.oldName?.getD "" ++ " still has contents")
  else
    .ok { p with isNew?, isGone?, fragments := found }

------------------------------------------------------------
-- Whole Patches
------------------------------------------------------------

/- The line that announces a content which is no text. -/
def binaryLine : Line := RawByte.encode "GIT binary patch\n"

/- Whether a line says that contents that are no texts differ. -/
def isBinaryRemark (line : Line) : Bool :=
  let chars := charsOf line
  ((behind? "Binary files " chars).isSome
      || (behind? "Files " chars).isSome)
    && " differ\n".toList.isSuffixOf chars

/- The lines behind a content which is no text. -/
def behindBinary : List Line → List Line
  | [] => []
  | line :: rest =>
    let chars := charsOf line
    if (behind? "diff --git " chars).isSome || (behind? "-- " chars).isSome
    then line :: rest
    else behindBinary rest

/- The lines of a patch behind its header. -/
def withBody (m : Manner) (number : Nat) (p : FilePatch)
    (rest : List Line) : Attempt (FilePatch × Nat × List Line) := do
  let (found, next, behind) ← fragments m (rest.length + 1) number rest
  let p ← withFragments p found
  if !found.isEmpty then return (p, next, behind)
  match rest with
  | line :: more =>
    if line == binaryLine then
      let behind := behindBinary more
      return ({ p with isBinary := true },
        number + (rest.length - behind.length), behind)
    else if isBinaryRemark line then
      return ({ p with isBinary := true }, number + 1, more)
  | [] => pure ()
  if m.isInEarnest && !p.changesMore then
    broken ("patch with only garbage at line " ++ toString number)
  return (p, next, behind)

/- All patches in some lines; the number is that of the first line. -/
def readFrom : Nat → Manner → Nat → List Line → Attempt (List FilePatch)
  | 0, _, _, _ => .ok []
  | _, _, _, [] => .ok []
  | fuel + 1, m, number, line :: rest => do
    let chars := charsOf line
    if line.length < 6 then return ← readFrom fuel m (number + 1) rest
    if (head? line).isSome then
      return ← broken ("patch fragment without header at line "
        ++ toString number ++ ": " ++ pathOf chars.dropLast)
    match behind? "diff --git " chars with
    | some names =>
      let given? := headerName? m names
      let (p, next, behind) ← headerLines m given? (number + 1)
        { FilePatch.empty with
          isNew? := some false
          isGone? := some false
          isFromTop := true } rest
      let p ← withNames next given? p
      if behind.length == rest.length then
        readFrom fuel m (number + 1) rest
      else
        let (p, next, behind) ← withBody m next p behind
        return p :: (← readFrom fuel m next behind)
    | none =>
      match behind? "--- " chars, rest with
      | some old, second :: third :: more =>
        match behind? "+++ " (charsOf second),
            behind? "@@ -" (charsOf third) with
        | some new, some _ =>
          let (m, p) ← plainHeader m number old new
          let (p, next, behind) ← withBody m (number + 2) p (third :: more)
          return p :: (← readFrom fuel m next behind)
        | _, _ => readFrom fuel m (number + 1) rest
      | _, _ => readFrom fuel m (number + 1) rest

/- All patches in a content. -/
def read (m : Manner) (content : List UInt8) : Attempt (List FilePatch) :=
  let lines := Joining.linesOf content
  readFrom (lines.length + 1) m 1 lines

end PatchReading

end Versions

end Sandbox

end TreeLint
