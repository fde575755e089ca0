import TreeLint.Sandbox.Versions.Attributes
import TreeLint.Sandbox.Versions.Revisions
import TreeLint.Text.Charset

/-
  How files are kept, and how they are written out.

  Key definitions include:
    * `Endings`
    * `Filter`
    * `Lens`
    * `Lens.clean`
    * `Lens.fault?`
    * `Lens.smudge`

  Attributes of a path say what happens between the work tree
  and what is kept.  A program may have its way with a file, a
  text may be written in another charset, it may have other
  ends of lines, and it may tell its own name.
-/

------------------------------------------------------------
-- Ends Of Lines
------------------------------------------------------------

namespace TreeLint

namespace Sandbox

namespace Versions

/- What is done with the ends of lines of a file. -/
inductive Endings where
  /- The file is kept as it is. -/
  | asIs
  /- The file is text; the flag says that it gets returns. -/
  | text (returns : Bool)
  /- The file is looked at first. -/
  | guessed (returns : Bool)
deriving DecidableEq, Repr

/- How some bytes look. -/
structure Looks where
  /- Returns with a line feed behind them. -/
  pairs : Nat
  loneReturns : Nat
  loneFeeds : Nat
  zeros : Nat
  printable : Nat
  unprintable : Nat

namespace Looks

/- Look at bytes; the flag says that a return was the last one. -/
def ofBytes : Looks → List UInt8 → Looks
  | l, [] => l
  | l, 13 :: 10 :: rest => ofBytes { l with pairs := l.pairs + 1 } rest
  | l, b :: rest =>
    let l :=
      if b == 13 then { l with loneReturns := l.loneReturns + 1 }
      else if b == 10 then { l with loneFeeds := l.loneFeeds + 1 }
      else if b == 127 then { l with unprintable := l.unprintable + 1 }
      else if b < 32 then
        if [8, 9, 27, 12].contains b then
          { l with printable := l.printable + 1 }
        else if b == 0 then
          { l with
            zeros := l.zeros + 1
            unprintable := l.unprintable + 1 }
        else { l with unprintable := l.unprintable + 1 }
      else { l with printable := l.printable + 1 }
    ofBytes l rest

/- How bytes look; an end-of-file sign at the end does not count. -/
def of (bytes : List UInt8) : Looks :=
  let l := ofBytes ⟨0, 0, 0, 0, 0, 0⟩ bytes
  if bytes.getLast? == some 26 then
    { l with unprintable := l.unprintable - 1 }
  else l

/- Whether bytes do not look like text. -/
def isBinary (l : Looks) : Bool :=
  l.loneReturns != 0 || l.zeros != 0 || l.printable / 128 < l.unprintable

end Looks

/- Drop the returns in front of line feeds. -/
def withoutReturns : List UInt8 → List UInt8
  | 13 :: 10 :: rest => 10 :: withoutReturns rest
  | b :: rest => b :: withoutReturns rest
  | [] => []

/- Put returns in front of the line feeds that have none. -/
def withReturns : List UInt8 → List UInt8
  | 13 :: 10 :: rest => 13 :: 10 :: withReturns rest
  | 10 :: rest => 13 :: 10 :: withReturns rest
  | b :: rest => b :: withReturns rest
  | [] => []

/- Drop the texts between dollar signs that tell the name. -/
def withoutIdentity : Nat → List UInt8 → List UInt8
  | 0, bytes => bytes
  | _ + 1, [] => []
  | fuel + 1, 36 :: 73 :: 100 :: 58 :: rest =>
    let inner := rest.takeWhile (fun b => b != 36 && b != 10)
    match rest.drop inner.length with
    | 36 :: behind => [36, 73, 100, 36] ++ withoutIdentity fuel behind
    | _ => [36, 73, 100, 58] ++ withoutIdentity fuel rest
  | fuel + 1, b :: rest => b :: withoutIdentity fuel rest

/- Put a name between dollar signs that ask for it. -/
def withIdentity (id : List UInt8) : List UInt8 → List UInt8
  | 36 :: 73 :: 100 :: 36 :: rest =>
    [36, 73, 100, 58, 32] ++ id ++ [32, 36] ++ withIdentity id rest
  | b :: rest => b :: withIdentity id rest
  | [] => []

------------------------------------------------------------
-- Filters
------------------------------------------------------------

/- Programs that the contents of files go through. -/
structure Filter where
  name : String
  /- The command for files on the way from the work tree. -/
  clean? : Option String
  /- The command for files on the way to the work tree. -/
  smudge? : Option String
  /- A program that would have to hold a conversation. -/
  talks : Bool
  /- A file must not pass without the program. -/
  isRequired : Bool

namespace Filter

/- What the names of settings for filters start with. -/
def keyStart : String := "filter."

/- The name of the filter that a setting is about. -/
def nameOf? (setting : Setting) : Option String :=
  if setting.name.startsWith keyStart then
    let behind := setting.name.toList.drop keyStart.length
    if behind.contains '.' then
      some (String.ofList
        ((behind.reverse.dropWhile (· != '.')).drop 1).reverse)
    else none
  else none

/- The filter of a name, if there are settings for it. -/
def ofName? (site : Site) (name : String) : Option Filter :=
  if site.settings.any (fun setting => nameOf? setting == some name) then
    let text? (key : String) : Option String :=
      (site.text? (keyStart ++ name ++ "." ++ key)).filter
        (fun text => !text.isEmpty)
    some ⟨name, text? "clean", text? "smudge", (text? "process").isSome,
      site.flag (keyStart ++ name ++ ".required") false⟩
  else none

/- A name in quotes of the shell. -/
def shellQuoted (name : String) : String :=
  "'" ++ Text.joinWith "'\\''" (Text.splitAt '\'' name) ++ "'"

/- A command with a path put into it. -/
def filled (p : Path) : List Char → List Char
  | '%' :: '%' :: rest => '%' :: filled p rest
  | '%' :: 'f' :: rest => (shellQuoted p).toList ++ filled p rest
  | c :: rest => c :: filled p rest
  | [] => []

/- Let a command have its way with a content. -/
def run? (world : World) (site : Site) (command : String) (p : Path)
    (content : List UInt8) : Option (List UInt8) :=
  let script := String.ofList (filled p command.toList)
  let start : Start :=
    ⟨"sh", ["-c", script], site.call.env, site.top?.getD site.admin,
      content, false⟩
  match site.call.launch world start with
  | some ran => if ran.code == some 0 then some ran.out else none
  | none => none

end Filter

------------------------------------------------------------
-- Charsets Of The Work Tree
------------------------------------------------------------

namespace Recoding

/- A name of a charset without what names may differ in. -/
def plainName (name : String) : String :=
  let name := name.toLower
  if name.startsWith "utf-" then "utf" ++ without "utf-" name else name

/- Whether a content starts with some bytes. -/
def startsWithOne (marks : List (List UInt8)) (content : List UInt8) :
    Bool :=
  marks.any (fun mark => mark.isPrefixOf content)

/- The marks of units of two bytes. -/
def marks16 : List (List UInt8) := [[0xFE, 0xFF], [0xFF, 0xFE]]

/- The marks of units of four bytes. -/
def marks32 : List (List UInt8) :=
  [[0, 0, 0xFE, 0xFF], [0xFF, 0xFE, 0, 0]]

/- What is wrong with the mark at the start of a content. -/
def markFault? (name : String) (p : Path) (content : List UInt8) :
    Option String :=
  let about (what : String) : String :=
    "BOM is " ++ what ++ " in '" ++ p ++ "' if encoded as " ++ name
  let plain := plainName name
  if (["utf16be", "utf16le"].contains plain
        && startsWithOne marks16 content)
      || (["utf32be", "utf32le"].contains plain
        && startsWithOne marks32 content) then
    some (about "prohibited")
  else if (plain == "utf16" && !startsWithOne marks16 content)
      || (plain == "utf32" && !startsWithOne marks32 content) then
    some (about "required")
  else none

/- The complaint about a content that cannot be written otherwise. -/
def failure (p : Path) (source target : String) : String :=
  "failed to encode '" ++ p ++ "' from " ++ source ++ " to " ++ target

/- A content in a charset, as it is kept; or what is wrong with it. -/
def toKept (name : String) (p : Path) (content : List UInt8) :
    Except String (List UInt8) :=
  match markFault? name p content with
  | some text => .error text
  | none =>
    let charset? :=
      if plainName name == "utf16le-bom" then
        some (Charset.utf16 .marked)
      else Charset.ofName? name
    match (charset?.bind fun charset => charset.read? content).bind
        Charset.utf8.write? with
    | some kept => .ok kept
    | none => .error (failure p name "UTF-8")

/- A content that is kept, in a charset. -/
def toTree (name : String) (content : List UInt8) : List UInt8 :=
  let (mark, charset?) := match plainName name with
    | "utf16le-bom" =>
      (([0xFF, 0xFE] : List UInt8), some (Charset.utf16 .littleFirst))
    | "utf16be-bom" => ([0xFE, 0xFF], some (Charset.utf16 .bigFirst))
    | _ => ([], Charset.ofName? name)
  match charset?.bind fun charset =>
      (Charset.utf8.read? content).bind charset.write? with
  | some written => mark ++ written
  | none => content

end Recoding

------------------------------------------------------------
-- Lenses
------------------------------------------------------------

/- What files are seen through, from the work tree or to it. -/
structure Lens where
  attributes : Attributes.Sources
  /- Files that are not said to be text are guessed. -/
  guesses : Bool
  /- Guessed files get returns. -/
  guessReturns : Bool
  /- Texts get returns. -/
  textReturns : Bool
  /- A file is only kept if its ends of lines come back as they are. -/
  isCareful : Bool
  /- A guessed text that is kept with returns stays as it is. -/
  spares : Bool
  seesModes : Bool
  seesLinks : Bool
  /- The filter of a name. -/
  filter? : String → Option Filter
  /- What a command makes of the content of a path. -/
  run? : String → Path → List UInt8 → Option (List UInt8)
  /- What is found in place of a content that is kept. -/
  found : List UInt8 → List UInt8

namespace Lens

/- What one attribute says about the ends of lines. -/
def ofState : Attributes.State → Option (Endings × Bool)
  | .isSet => some (.text false, false)
  | .isUnset => some (.asIs, true)
  | .text "input" => some (.text false, true)
  | .text "auto" => some (.guessed false, false)
  | _ => none

/- What the attributes of a path say about it. -/
structure Treatment where
  endings : Endings
  tellsIdentity : Bool
  filter? : Option Filter
  charset? : Option String
  /- The charset is asked for in a way that says nothing. -/
  isUnclear : Bool

/- What is done with the ends of lines under some attributes. -/
def endingsUnder (lens : Lens) (states : Attributes.States) : Endings :=
  let given (asked : String) : Attributes.State :=
    (states.lookup asked).getD .unspecified
  let found := match ofState (given "text") with
    | some found => some found
    | none => ofState (given "crlf")
  match found, given "eol" with
  | some (.asIs, _), _ => .asIs
  | some (.guessed _, _), .text "lf" => .guessed false
  | some (.guessed _, _), .text "crlf" => .guessed true
  | some (.guessed _, _), _ => .guessed lens.textReturns
  | _, .text "lf" => .text false
  | _, .text "crlf" => .text true
  | some (.text _, true), _ => .text false
  | some (.text _, false), _ => .text lens.textReturns
  | none, _ => if lens.guesses then .guessed lens.guessReturns else .asIs

/- How a path is treated. -/
def treatment (lens : Lens) (p : Path) : Treatment :=
  if lens.attributes.isEmpty then
    ⟨lens.endingsUnder [], false, none, none, false⟩
  else
    let states := Attributes.states lens.attributes (namesOf p)
    let charset := states.lookup "working-tree-encoding"
    { endings := lens.endingsUnder states
      tellsIdentity := states.lookup "ident" == some .isSet
      filter? := match states.lookup "filter" with
        | some (.text name) => lens.filter? name
        | _ => none
      charset? := match charset with
        | some (.text name) =>
          if name.isEmpty || Recoding.plainName name == "utf8" then none
          else some name
        | _ => none
      isUnclear := charset == some .isSet }

/- What a command of a filter makes of a content, if it works. -/
def filtered? (lens : Lens) (filter : Filter) (command? : Option String)
    (p : Path) (content : List UInt8) : Option (List UInt8) :=
  match filter.talks, command? with
  | false, some command => lens.run? command p content
  | _, _ => none

/- A content behind the filter on its way from the work tree. -/
def behindFilter (lens : Lens) (how : Treatment) (p : Path)
    (content : List UInt8) : List UInt8 :=
  (how.filter?.bind fun filter =>
    lens.filtered? filter filter.clean? p content).getD content

/- A content behind the filter, in the charset in which it is kept. -/
def recoded (lens : Lens) (how : Treatment) (p : Path)
    (content : List UInt8) : List UInt8 :=
  let content := lens.behindFilter how p content
  match how.charset? with
  | some name =>
    if content.isEmpty then content
    else (Recoding.toKept name p content).toOption.getD content
  | none => content

/- Whether a file that is kept has returns in a text. -/
def hasReturns : Option Tracked → Bool
  | some (.file old _) =>
    let looks := Looks.of old
    !looks.isBinary && looks.pairs != 0
  | _ => false

/-
  A content of the work tree as it is kept.  A guessed text
  that is kept with returns stays as it is.
-/
def clean (lens : Lens) (kept : Option Tracked) (p : Path)
    (content : List UInt8) : List UInt8 :=
  let how := lens.treatment p
  let content := lens.recoded how p content
  let ended := match how.endings with
    | .asIs => content
    | .text _ => withoutReturns content
    | .guessed _ =>
      let looks := Looks.of content
      if looks.pairs == 0 || looks.isBinary
          || (lens.spares && hasReturns kept) then
        content
      else content.filter (· != 13)
  if how.tellsIdentity then withoutIdentity (ended.length + 1) ended
  else ended

/- What would be lost if a content were kept and written out again. -/
def lostEndings? (how : Treatment) (kept : Option Tracked) (p : Path)
    (content : List UInt8) : Option String :=
  let looks := Looks.of content
  let drops := match how.endings with
    | .asIs => false
    | .text _ => looks.pairs != 0
    | .guessed _ =>
      looks.pairs != 0 && !looks.isBinary && !hasReturns kept
  let isLeft := content.isEmpty || how.endings == .asIs
    || (match how.endings with
      | .guessed _ => looks.isBinary
      | _ => false)
  let feeds := looks.loneFeeds + (if drops then looks.pairs else 0)
  let pairs := if drops then 0 else looks.pairs
  let adds := match how.endings with
    | .text true => feeds != 0
    | .guessed true =>
      feeds != 0 && pairs == 0 && looks.loneReturns == 0
        && !looks.isBinary
    | _ => false
  if isLeft then none
  else if looks.pairs != 0 && pairs == 0 && !adds then
    some ("CRLF would be replaced by LF in " ++ p)
  else if looks.loneFeeds != 0 && adds then
    some ("LF would be replaced by CRLF in " ++ p)
  else none

/-
  Why a content of the work tree cannot be dealt with; the
  flag says that it is going to be kept.
-/
def fault? (lens : Lens) (isForKeeping : Bool) (kept : Option Tracked)
    (p : Path) (content : List UInt8) : Option String :=
  let how := lens.treatment p
  let filterFault? := how.filter?.bind fun filter =>
    if filter.isRequired
        && (lens.filtered? filter filter.clean? p content).isNone then
      some (p ++ ": clean filter '" ++ filter.name ++ "' failed")
    else none
  let filtered := lens.behindFilter how p content
  let charsetFault? := how.charset?.bind fun name =>
    match isForKeeping && !filtered.isEmpty,
        Recoding.toKept name p filtered with
    | true, .error text => some text
    | _, _ => none
  if how.isUnclear then
    some "true/false are no valid working-tree-encodings"
  else
    (filterFault?.orElse fun _ => charsetFault?).orElse fun _ =>
      if isForKeeping && lens.isCareful then
        lostEndings? how kept p (lens.recoded how p content)
      else none

/- A content that is kept, with the ends of lines of the work tree. -/
def withEndings (endings : Endings) (content : List UInt8) : List UInt8 :=
  match endings with
  | .text true => withReturns content
  | .guessed true =>
    let looks := Looks.of content
    if looks.loneFeeds == 0 || looks.loneReturns != 0 || looks.pairs != 0
        || looks.isBinary then
      content
    else
      withReturns content
  | _ => content

/- A content that is kept, in front of the filter to the work tree. -/
def beforeFilter (how : Treatment) (content : List UInt8)
    (id : List UInt8 → String) : List UInt8 :=
  let named :=
    if how.tellsIdentity then
      withIdentity (RawByte.encode (id content)) content
    else content
  let ended := withEndings how.endings named
  match how.charset? with
  | some name =>
    if ended.isEmpty then ended else Recoding.toTree name ended
  | none => ended

/- A content that is kept, as it is in the work tree. -/
def smudge (lens : Lens) (p : Path) (content : List UInt8)
    (id : List UInt8 → String) : List UInt8 :=
  let how := lens.treatment p
  let content := beforeFilter how (lens.found content) id
  (how.filter?.bind fun filter =>
    lens.filtered? filter filter.smudge? p content).getD content

/- Why a content cannot be written to the work tree. -/
def smudgeFault? (lens : Lens) (p : Path) (content : List UInt8)
    (id : List UInt8 → String) : Option String :=
  let how := lens.treatment p
  if how.isUnclear then
    some "true/false are no valid working-tree-encodings"
  else
    how.filter?.bind fun filter =>
      if filter.isRequired
          && (lens.filtered? filter filter.smudge? p
            (beforeFilter how (lens.found content) id)).isNone then
        some (p ++ ": smudge filter " ++ filter.name ++ " failed")
      else none

/- The lens of a site, with the files of attributes given. -/
def of (site : Site) (world : World)
    (inTree : List (Location × String)) : Lens :=
  let textAt (p : Path) : String :=
    match world.files.read? site.call.cwd p with
    | some content => RawByte.decode content
    | none => ""
  let strong := Attributes.ofText
    (textAt (site.common ++ ["info", "attributes"]).toPath)
  let weak := match Ignored.userFile? site "core.attributesfile"
      "attributes" with
    | some p => Attributes.ofText (textAt p)
    | none => ([], [])
  let inTree := inTree.map
    (fun (names, text) => (names, Attributes.ofText text))
  let top := (inTree.lookup []).getD ([], [])
  let definitions := strong.2.reverse ++ top.2.reverse ++ weak.2.reverse
    ++ [Attributes.binary]
  let isInput := site.text? "core.autocrlf" == some "input"
  let isOn := !isInput && site.flag "core.autocrlf" false
  let textReturns :=
    isOn || (!isInput && (site.text? "core.eol").any
      (fun text => text.toLower == "crlf"))
  { attributes :=
      { strong := strong.1
        inTree := inTree.map (fun (names, parsed) => (names, parsed.1))
        weak := weak.1
        definitions
        foldsCase := site.flag "core.ignorecase" false }
    guesses := isInput || isOn
    guessReturns := isOn
    textReturns
    isCareful := (site.text? "core.safecrlf").all
      (fun text => text.toLower != "warn")
      && site.flag "core.safecrlf" false
    spares := true
    seesModes := site.flag "core.filemode" true
    seesLinks := site.flag "core.symlinks" true
    filter? := Filter.ofName? site
    run? := Filter.run? world site
    found := contentFor world.archive }

/- The text of a file, without a mark at its start. -/
def textOf (content : List UInt8) : String :=
  match (RawByte.decode content).toList with
  | '\uFEFF' :: rest => String.ofList rest
  | chars => String.ofList chars

/- The files of attributes in the work tree, by their directories. -/
def treeTexts (site : Site) (t : FileTree) : List (Location × String) :=
  t.nodes.filterMap fun (loc, node) =>
    match node with
    | .file content _ =>
      if loc.getLast? == some Attributes.fileName
          && site.top.isPrefixOf loc then
        some (loc.dropLast.drop site.top.length, textOf content)
      else
        none
    | _ => none

/- The files of attributes of a snapshot, by their directories. -/
def keptTexts (files : Snapshot) : List (Location × String) :=
  files.filterMap fun ((p, file) : Path × Tracked) =>
    match file, (namesOf p).getLast? with
    | .file content _, some name =>
      if name == Attributes.fileName then
        some ((namesOf p).dropLast, RawByte.decode content)
      else
        none
    | _, _ => none

/-
  The lens of a site, as its work tree has it.  The index
  stands in for files that are not there.
-/
def ofTree (site : Site) (world : World) (index : Index) : Lens :=
  let kept := index.filterMap fun e =>
    if e.stage == 0 || e.stage == 2 then some (e.path, e.file) else none
  of site world (treeTexts site world.files ++ keptTexts kept)

/-
  The lens of a site, as a snapshot has it.  The work tree
  stands in for files that are not there.
-/
def ofSnapshot (site : Site) (world : World) (files : Snapshot) : Lens :=
  of site world (keptTexts files ++ treeTexts site world.files)

end Lens

end Versions

end Sandbox

end TreeLint
