import TreeLint.Repository.Changes
import TreeLint.Sandbox.Versions.Blanks
import TreeLint.Sandbox.Versions.Differences
import TreeLint.Sandbox.Versions.Joining

/-
  Differences as texts.

  Key definitions include:
    * `Patch.shownName`
    * `Patch.statusOf`
    * `Patch.Style`
    * `Patch.ofChange`

  A change is shown by its name alone, with a letter for what
  kind of change it is, or line by line with some lines around
  those that have changed.
-/

------------------------------------------------------------
-- Names
------------------------------------------------------------

namespace TreeLint

namespace Sandbox

namespace Versions

namespace Patch

/- A name as it is printed, with every byte beyond ASCII escaped. -/
def escapedName (name : String) : String :=
  let isWide (c : Char) : Bool := 0x80 ≤ c.toNat
  if name.toList.any (fun c => isWide c || Changes.needsQuotes c) then
    "\"" ++ String.ofList (name.toList.flatMap fun c =>
      if isWide c then
        (RawByte.encode (String.singleton c)).flatMap fun b =>
          ['\\', Changes.octalDigit (b.toNat / 64),
            Changes.octalDigit (b.toNat / 8), Changes.octalDigit b.toNat]
      else Changes.escapedChar c) ++ "\""
  else
    name

/- A name as it is printed, by the settings. -/
def shownName (site : Site) (name : String) : String :=
  if site.flag "core.quotepath" true then escapedName name
  else Changes.printedName name

/- Whether both sides are of one kind. -/
def isOneKind : Tracked → Tracked → Bool
  | .file _ _, .file _ _ => true
  | .link _, .link _ => true
  | .nested _, .nested _ => true
  | _, _ => false

/- The letter for a change. -/
def statusOf (change : Differences.Change) : String :=
  if change.row.isUnmerged then "U"
  else
    match change.source?, change.row.old, change.row.new with
    | some source, _, _ => if source.isCopy then "C" else "R"
    | none, none, _ => "A"
    | none, _, none => "D"
    | none, some a, some b => if isOneKind a b then "M" else "T"

/- How much of a file is still as it was, in hundredths. -/
def percentOf (source : Differences.Source) : Nat :=
  source.score * 100 / Renames.fullScore

------------------------------------------------------------
-- Styles
------------------------------------------------------------

/- What does not count when lines are compared. -/
inductive Ignoring where
  | nothing
  | returnsAtEnd
  | blanksAtEnd
  /- Blanks are there or not, no matter how many. -/
  | amounts
  | blanks
deriving DecidableEq, Repr

/- How changes are shown. -/
structure Style where
  /- How many lines are shown around those that have changed. -/
  context : Nat := 3
  /- Changes are shown together if no more lines are between. -/
  gap : Nat := 0
  oldFront : String := "a/"
  newFront : String := "b/"
  /- How much of a digest is shown. -/
  idLength : Nat := 7
  ignoring : Ignoring := .nothing
  ignoresEmptyLines : Bool := false
  /- Every file is shown as if it were text. -/
  takesText : Bool := false
  /- Of files that are gone only the names are shown. -/
  hidesGone : Bool := false

namespace Ignoring

/- Blanks with as many of them as count. -/
def squeezed : Bool → Joining.Line → Joining.Line
  | _, [] => []
  | wasBlank, b :: rest =>
    if BlankRules.isBlank b then squeezed true rest
    else if wasBlank then 32 :: b :: squeezed false rest
    else b :: squeezed false rest

/- A line as it is compared. -/
def key (ignoring : Ignoring) (line : Joining.Line) : Joining.Line :=
  match ignoring with
  | .nothing => line
  | .returnsAtEnd =>
    match line.reverse with
    | 10 :: 13 :: rest => (10 :: rest).reverse
    | 13 :: rest => rest.reverse
    | _ => line
  | .blanksAtEnd => BlankRules.trimmed line
  | .amounts => squeezed false line
  | .blanks => line.filter (fun b => !BlankRules.isBlank b)

end Ignoring

------------------------------------------------------------
-- Lines
------------------------------------------------------------

/- The bytes of a file, as they are kept. -/
def bytesOf (isDirty : Bool) : Option Tracked → List UInt8
  | some (.file content _) => content
  | some (.link target) => RawByte.encode target
  | some (.nested id) =>
    RawByte.encode ("Subproject commit " ++ id
      ++ (if isDirty then "-dirty\n" else "\n"))
  | none => []

/- A line with the text by which it is compared. -/
structure KeyedLine where
  key : Joining.Line
  line : Joining.Line

instance : BEq KeyedLine where
  beq a b := a.key == b.key

/- The changes from some lines to others. -/
def hunksOf (style : Style) (old new : List Joining.Line) :
    List Joining.Hunk :=
  let keyed (line : Joining.Line) : KeyedLine :=
    ⟨style.ignoring.key line, line⟩
  let hunks : List Joining.Hunk :=
    if style.ignoring == .nothing then Joining.script old new
    else
      (LineChanges.script (old.map keyed) (new.map keyed)).map fun hunk =>
        ⟨hunk.start, hunk.removed, hunk.added.map KeyedLine.line⟩
  if style.ignoresEmptyLines then
    hunks.filter fun hunk =>
      !((old.drop hunk.start).take hunk.removed ++ hunk.added).all
        (fun line => (Ignoring.blanksAtEnd.key line).isEmpty)
  else hunks

/- Changes that are shown together. -/
def groups (style : Style) : List Joining.Hunk → List (List Joining.Hunk)
  | [] => []
  | hunk :: rest =>
    match groups style rest with
    | (next :: more) :: others =>
      if next.start ≤ hunk.stop + 2 * style.context + style.gap then
        (hunk :: next :: more) :: others
      else [hunk] :: (next :: more) :: others
    | others => [hunk] :: others

/- A line with a sign in front, and a remark if it does not end. -/
def signed (sign : Char) (line : Joining.Line) : List UInt8 :=
  let front := RawByte.encode (String.singleton sign)
  if line.getLast? == some 10 then front ++ line
  else front ++ line ++ RawByte.encode "\n\\ No newline at end of file\n"

/- A number of lines and where they start. -/
def rangeText (start count : Nat) : String :=
  if count == 1 then toString (start + 1)
  else
    toString (if count == 0 then start else start + 1) ++ ","
      ++ toString count

/-
  The lines of some changes.  The new lines are those from the
  first one that is shown on.
-/
def body (old : List Joining.Line) (stop : Nat) :
    Nat → List Joining.Line → List Joining.Hunk → List UInt8
  | at', new, [] => (new.take (stop - at')).flatMap (signed ' ')
  | at', new, hunk :: rest =>
    let before := hunk.start - at'
    (new.take before).flatMap (signed ' ')
      ++ ((old.drop hunk.start).take hunk.removed).flatMap (signed '-')
      ++ hunk.added.flatMap (signed '+')
      ++ body old stop hunk.stop (new.drop (before + hunk.added.length)) rest

/- Whether a line may stand for what follows it. -/
def isHeading (line : Joining.Line) : Bool :=
  match line with
  | b :: _ =>
    (65 ≤ b && b ≤ 90) || (97 ≤ b && b ≤ 122) || b == 95 || b == 36
  | [] => false

/- The last heading between two lines, without blanks at its end. -/
def heading? (old : List Joining.Line) (start stop : Nat) :
    Option Joining.Line :=
  (((old.take stop).drop start).reverse.find? isHeading).map fun line =>
    BlankRules.trimmed ((if line.getLast? == some 10 then line.dropLast
      else line).take 80)

/-
  The text of groups of changes.  `seen` is the line up to which
  a heading has been looked for.
-/
def hunkTexts (style : Style) (old new : List Joining.Line) :
    Int → Nat → Joining.Line → List (List Joining.Hunk) → List UInt8
  | _, _, _, [] => []
  | shift, seen, heading, group :: rest =>
    let first := (group.head?.map LineChanges.Hunk.start).getD 0
    let last := (group.getLast?.map Joining.Hunk.stop).getD 0
    let start := first - style.context
    let stop := min old.length (last + style.context)
    let grown : Int := group.foldl
      (fun sum hunk => sum + hunk.added.length - hunk.removed) 0
    let newStart := (Int.ofNat start + shift).toNat
    let newCount := (Int.ofNat (stop - start) + grown).toNat
    let heading := (heading? old seen start).getD heading
    RawByte.encode ("@@ -" ++ rangeText start (stop - start) ++ " +"
        ++ rangeText newStart newCount ++ " @@")
      ++ (if heading.isEmpty then [] else 32 :: heading) ++ [10]
      ++ body old stop start (new.drop newStart) group
      ++ hunkTexts style old new (shift + grown) start heading rest

------------------------------------------------------------
-- Changes
------------------------------------------------------------

/- The beginning of a digest. -/
def shortId (style : Style) (file : Option Tracked) : String :=
  let id := (file.map fileId).getD Site.noId
  String.ofList (id.toList.take style.idLength)

/- The lines about modes and names in front of a change. -/
def headLines (site : Site) (change : Differences.Change)
    (old new : Option Tracked) : String :=
  match old.map modeOf, new.map modeOf with
  | some a, some b =>
    (if a == b then "" else "old mode " ++ a ++ "\nnew mode " ++ b ++ "\n")
      ++ match change.source? with
        | none => ""
        | some source =>
          let verb := if source.isCopy then "copy" else "rename"
          "similarity index " ++ toString (percentOf source) ++ "%\n"
            ++ verb ++ " from " ++ shownName site source.path ++ "\n"
            ++ verb ++ " to " ++ shownName site change.row.path ++ "\n"
  | none, some b => "new file mode " ++ b ++ "\n"
  | some a, none => "deleted file mode " ++ a ++ "\n"
  | none, none => ""

/- A change from a file to another one of its kind, line by line. -/
def ofSides (site : Site) (style : Style) (change : Differences.Change)
    (old new : Option Tracked) : List UInt8 :=
  let row := change.row
  let source := (change.source?.map Differences.Source.path).getD row.path
  let nameOf (front p : String) : String := shownName site (front ++ p)
  let tabbed (name : String) : String :=
    if name.contains ' ' then name ++ "\t" else name
  let head := headLines site change old new
  let modeText := match old.map modeOf, new.map modeOf with
    | some a, some b => if a == b then " " ++ a else ""
    | _, _ => ""
  let title := "diff --git " ++ nameOf style.oldFront source ++ " "
    ++ nameOf style.newFront row.path ++ "\n" ++ head
  let oldBytes := bytesOf false old
  let newBytes := bytesOf row.isDirty new
  let ids := if old.map fileId == new.map fileId then ""
    else "index " ++ shortId style old ++ ".." ++ shortId style new
      ++ modeText ++ "\n"
  let oldName := if old.isNone then "/dev/null"
    else nameOf style.oldFront source
  let newName := if new.isNone then "/dev/null"
    else nameOf style.newFront row.path
  let isText := style.takesText
    || (Renames.isText oldBytes && Renames.isText newBytes)
  if oldBytes == newBytes then
    RawByte.encode (title ++ ids)
  else if style.hidesGone && new.isNone then RawByte.encode (title ++ ids)
  else if !isText then
    RawByte.encode (title ++ ids ++ "Binary files " ++ oldName ++ " and "
      ++ newName ++ " differ\n")
  else
    let oldLines := Joining.linesOf oldBytes
    let newLines := Joining.linesOf newBytes
    let hunks := hunksOf style oldLines newLines
    if hunks.isEmpty then
      if head.isEmpty then [] else RawByte.encode (title ++ ids)
    else
      RawByte.encode (title ++ ids ++ "--- " ++ tabbed oldName ++ "\n+++ "
          ++ tabbed newName ++ "\n")
        ++ hunkTexts style oldLines newLines 0 0 [] (groups style hunks)

/- The files on the two sides of a change. -/
def sidesOf (change : Differences.Change) : Option Tracked × Option Tracked :=
  match change.source? with
  | some source => (some source.file, change.row.new)
  | none => (change.row.old, change.row.new)

/- A change, line by line. -/
def ofChange (site : Site) (style : Style) (change : Differences.Change) :
    List UInt8 :=
  let (old, new) := sidesOf change
  if change.row.isUnmerged then
    RawByte.encode ("* Unmerged path " ++ change.row.path ++ "\n")
  else
    match old, new with
    | some a, some b =>
      if isOneKind a b then ofSides site style change old new
      else
        ofSides site style { change with source? := none } old none
          ++ ofSides site style { change with source? := none } none new
    | _, _ => ofSides site style change old new

end Patch

end Versions

end Sandbox

end TreeLint
