import TreeLint.Sandbox.Versions.Patch

/-
  How much has changed.

  Key definitions include:
    * `Tallies.Tally`
    * `Tallies.diagram`
    * `Tallies.total`
    * `Tallies.summary`

  The lines that a change adds and removes are counted, and the
  counts are shown as numbers or as a diagram that fits into a
  width.
-/

------------------------------------------------------------
-- Counting
------------------------------------------------------------

namespace TreeLint

namespace Sandbox

namespace Versions

namespace Tallies

/- What is counted of a change. -/
inductive Count where
  | lines (added removed : Nat)
  /- The sizes of files that are no text. -/
  | bytes (old new : Nat)
  | unmerged
deriving DecidableEq, Repr

/- A name with what is counted. -/
structure Tally where
  name : String
  count : Count
deriving Repr

/- The longest common start of two lists, in whole steps. -/
def sharedSteps : List String → List String → List String
  | a :: old, b :: new => if a == b then a :: sharedSteps old new else []
  | _, _ => []

/- Two names of a file as one text; what they share stands once. -/
def twoNames (old new : Path) : String :=
  let olds := Text.splitAt '/' old
  let news := Text.splitAt '/' new
  let front := sharedSteps olds.dropLast news.dropLast
  let oldRest := olds.drop front.length
  let newRest := news.drop front.length
  let back := (sharedSteps oldRest.reverse newRest.reverse).reverse
  if front.isEmpty && back.isEmpty then old ++ " => " ++ new
  else
    let middle (steps : List String) : String :=
      Text.joinWith "/" (steps.take (steps.length - back.length))
    String.join (front.map (· ++ "/")) ++ "\x7b" ++ middle oldRest ++ " => "
      ++ middle newRest ++ "\x7d" ++ String.join (back.map ("/" ++ ·))

/- The name of a change. -/
def nameOf (site : Site) (change : Differences.Change) : String :=
  match change.source? with
  | some source =>
    if Patch.shownName site source.path == source.path
        && Patch.shownName site change.row.path == change.row.path then
      twoNames source.path change.row.path
    else
      Patch.shownName site source.path ++ " => "
        ++ Patch.shownName site change.row.path
  | none => Patch.shownName site change.row.path

/- What is counted of a change. -/
def countOf (style : Patch.Style) (change : Differences.Change) : Count :=
  let (old, new) := Patch.sidesOf change
  let oldBytes := Patch.bytesOf false old
  let newBytes := Patch.bytesOf change.row.isDirty new
  if change.row.isUnmerged then .unmerged
  else if !style.takesText
      && !(Renames.isText oldBytes && Renames.isText newBytes) then
    .bytes oldBytes.length newBytes.length
  else if oldBytes == newBytes then .lines 0 0
  else
    let hunks := Patch.hunksOf style (Joining.linesOf oldBytes)
      (Joining.linesOf newBytes)
    .lines (hunks.foldl (fun n hunk => n + hunk.added.length) 0)
      (hunks.foldl (fun n hunk => n + hunk.removed) 0)

/- What happened to the mode of a file, in brackets. -/
def modeNote (change : Differences.Change) : String :=
  let isProgram : Option Tracked → Bool
    | some (.file _ executable) => executable
    | _ => false
  let isLink : Option Tracked → Bool
    | some (.link _) => true
    | _ => false
  match Patch.sidesOf change with
  | (none, new) =>
    if isLink new then " (new +l)"
    else if isProgram new then " (new +x)" else " (new)"
  | (_, none) => " (gone)"
  | (old, new) =>
    if isLink old == isLink new && isProgram old == isProgram new then ""
    else
      let sign (name : String) (before after : Bool) : String :=
        if before == after then ""
        else (if after then "+" else "-") ++ name
      " (mode " ++ sign "x" (isProgram old) (isProgram new)
        ++ sign "l" (isLink old) (isLink new) ++ ")"

/- The tally of a change. -/
def ofChange (site : Site) (style : Patch.Style) (isNoted : Bool)
    (change : Differences.Change) : Tally :=
  ⟨nameOf site change ++ (if isNoted then modeNote change else ""),
    countOf style change⟩

------------------------------------------------------------
-- Numbers
------------------------------------------------------------

/- The numbers of a change, for other programs. -/
def numbers (site : Site) (isNull : Bool) (change : Differences.Change)
    (tally : Tally) : String :=
  let front := match tally.count with
    | .lines added removed =>
      toString added ++ "\t" ++ toString removed ++ "\t"
    | .bytes _ _ => "-\t-\t"
    | .unmerged => "0\t0\t"
  if isNull then
    match change.source? with
    | some source =>
      front ++ "\x00" ++ source.path ++ "\x00" ++ change.row.path ++ "\x00"
    | none => front ++ change.row.path ++ "\x00"
  else front ++ nameOf site change ++ "\n"

/- How many files and lines have changed. -/
def total (tallies : List Tally) : String :=
  let counted := tallies.filter (fun tally => tally.count != .unmerged)
  let sum (of : Count → Nat) : Nat :=
    counted.foldl (fun n tally => n + of tally.count) 0
  let added := sum fun count => match count with
    | .lines added _ => added
    | _ => 0
  let removed := sum fun count => match count with
    | .lines _ removed => removed
    | _ => 0
  let files := counted.length
  let many (n : Nat) (text : String) : String :=
    if n == 1 then text else text ++ "s"
  if files == 0 then " 0 files changed\n"
  else
    " " ++ toString files ++ many files " file" ++ " changed"
      ++ (if added != 0 || removed == 0 then
          ", " ++ toString added ++ many added " insertion" ++ "(+)"
        else "")
      ++ (if removed != 0 || added == 0 then
          ", " ++ toString removed ++ many removed " deletion" ++ "(-)"
        else "")
      ++ "\n"

------------------------------------------------------------
-- Diagrams
------------------------------------------------------------

/- The sizes of the parts of a diagram. -/
structure Sizes where
  name : Nat
  number : Nat
  diagram : Nat
  most : Nat

/- A number as so much of a width. -/
def scaled (n width most : Nat) : Nat :=
  if n == 0 then 0 else 1 + n * (width - 1) / most

/- The number of digits of a number. -/
def digits (n : Nat) : Nat :=
  (toString n).length

/- The sizes of a diagram of some width, and of at most some for names. -/
def sizesFor (width : Nat) (nameWidth? : Option Nat)
    (tallies : List Tally) : Sizes :=
  let most := tallies.foldl
    (fun n tally => match tally.count with
      | .lines added removed => max n (added + removed)
      | _ => n) 0
  let special := tallies.foldl
    (fun n tally => match tally.count with
      | .lines _ _ => n
      | .bytes old new => max n (14 + digits old + digits new)
      | .unmerged => max n 8) 0
  let hasBytes := tallies.any fun tally => match tally.count with
    | .bytes _ _ => true
    | _ => false
  let name := tallies.foldl (fun n tally => max n tally.name.length) 0
  let name := match nameWidth? with
    | some n => if 0 < n then min n name else name
    | none => name
  let number := max (digits most) (if hasBytes then 3 else 0)
  let width := max width (22 + number)
  let diagram := if special < most + 4 then most else special - 4
  if name + number + 6 + diagram ≤ width then ⟨name, number, diagram, most⟩
  else
    let room := width * 3 / 8 - number - 6
    let diagram := if room < diagram then max room 6 else diagram
    if width - number - 6 - diagram < name then
      ⟨width - number - 6 - diagram, number, diagram, most⟩
    else ⟨name, number, width - number - 6 - name, most⟩

/- A name cut to a width. -/
def fitted (width : Nat) (name : String) : String :=
  if name.length ≤ width then
    name ++ String.ofList (List.replicate (width - name.length) ' ')
  else
    let rest := name.toList.drop (name.length - (width - 3))
    let rest := match rest.dropWhile (· != '/') with
      | [] => rest
      | tail => tail
    let text := "..." ++ String.ofList rest
    text ++ String.ofList (List.replicate (width - text.length) ' ')

/- A number at the right end of a width. -/
def rightwards (width n : Nat) : String :=
  String.ofList (List.replicate (width - digits n) ' ') ++ toString n

/- A row of a diagram. -/
def rowOf (sizes : Sizes) (tally : Tally) : String :=
  let front := " " ++ fitted sizes.name tally.name ++ " | "
  match tally.count with
  | .unmerged => front ++ "Unmerged\n"
  | .bytes old new =>
    front ++ String.ofList (List.replicate (sizes.number - 3) ' ') ++ "Bin"
      ++ (if old == 0 && new == 0 then ""
        else " " ++ toString old ++ " -> " ++ toString new ++ " bytes")
      ++ "\n"
  | .lines added removed =>
    let all := added + removed
    let (plus, minus) :=
      if sizes.most < sizes.diagram then (added, removed)
      else
        let whole := scaled all sizes.diagram sizes.most
        let whole := if whole < 2 && added != 0 && removed != 0 then 2
          else whole
        if added < removed then
          let plus := scaled added sizes.diagram sizes.most
          (plus, whole - plus)
        else
          let minus := scaled removed sizes.diagram sizes.most
          (whole - minus, minus)
    front ++ rightwards sizes.number all ++ (if all == 0 then "" else " ")
      ++ String.ofList (List.replicate plus '+' ++ List.replicate minus '-')
      ++ "\n"

/- A diagram of some width, with what it comes to. -/
def diagram (width : Nat) (nameWidth? : Option Nat)
    (tallies : List Tally) : String :=
  let sizes := sizesFor width nameWidth? tallies
  if tallies.isEmpty then ""
  else String.join (tallies.map (rowOf sizes)) ++ total tallies

------------------------------------------------------------
-- Summaries
------------------------------------------------------------

/- What happened to the names and modes of files. -/
def summary (site : Site) (change : Differences.Change) : String :=
  let name := Patch.shownName site change.row.path
  let (old, new) := Patch.sidesOf change
  let modes := match old.map modeOf, new.map modeOf with
    | some a, some b => if a == b then none else some (a ++ " => " ++ b)
    | _, _ => none
  match change.source?, old, new with
  | some source, _, _ =>
    let verb := if source.isCopy then " copy " else " rename "
    verb ++ nameOf site change ++ " (" ++ toString (Patch.percentOf source)
      ++ "%)\n"
      ++ (modes.map (fun text => " mode change " ++ text ++ "\n")).getD ""
  | none, none, some file =>
    " create mode " ++ modeOf file ++ " " ++ name ++ "\n"
  | none, some file, none =>
    " delete mode " ++ modeOf file ++ " " ++ name ++ "\n"
  | none, _, _ =>
    (modes.map (fun text =>
      " mode change " ++ text ++ " " ++ name ++ "\n")).getD ""

/- A change as a row of modes and digests. -/
def raw (site : Site) (style : Patch.Style) (isNull : Bool)
    (hasOldId hasNewId : Path → Bool) (change : Differences.Change) :
    String :=
  let (old, new) := Patch.sidesOf change
  let noMode := "000000"
  let oldPath := (change.source?.map Differences.Source.path).getD
    change.row.path
  let ofOld := if hasOldId oldPath then old else none
  let ofNew := if hasNewId change.row.path then new else none
  let status := Patch.statusOf change
  let score := match change.source? with
    | some source =>
      let text := toString (Patch.percentOf source)
      String.ofList (List.replicate (3 - text.length) '0') ++ text
    | none => ""
  let names := (change.source?.map Differences.Source.path).toList
    ++ [change.row.path]
  let shown := names.map fun p =>
    if isNull then "\x00" ++ p else "\t" ++ Patch.shownName site p
  ":" ++ (old.map modeOf).getD noMode ++ " " ++ (new.map modeOf).getD noMode
    ++ " " ++ Patch.shortId style ofOld ++ " " ++ Patch.shortId style ofNew
    ++ " " ++ status ++ score ++ String.join shown
    ++ (if isNull then "\x00" else "\n")

end Tallies

end Versions

end Sandbox

end TreeLint
