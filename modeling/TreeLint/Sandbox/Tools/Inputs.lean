import TreeLint.Sandbox.Options
import TreeLint.Text.Octet

/-
  What programs about texts read and print.

  Key definitions include:
    * `Tools.Source`
    * `Tools.sources`
    * `Tools.linesOf`
    * `Tools.Report`

  A program takes its texts from files, or from its input where
  a dash stands for a file.  It sees a text as characters, one
  for each byte.  What it prints and what it complains about
  are kept in one order.
-/

------------------------------------------------------------
-- Texts
------------------------------------------------------------

namespace TreeLint

namespace Sandbox

namespace Tools

/- Characters, one for each byte. -/
abbrev Chars : Type := List Char

/- Why a program has no text from a path. -/
inductive Unread where
  | closed (why : String)
  /- The path leads to a directory. -/
  | directory
deriving DecidableEq, Repr

namespace Unread

/- The reason in words. -/
def why : Unread → String
  | closed why => why
  | directory => "Is a directory"

end Unread

/- The bytes of a file that a path leads to, or the reason. -/
def readFile (world : World) (cwd : Location) (p : Path) :
    Except String (List UInt8) :=
  match world.files.locate cwd p with
  | .error e => .error (reason e)
  | .ok loc =>
    match world.files.node? loc with
    | some (.file content _) => .ok content
    | some .directory => .error "Is a directory"
    | _ => .ok []

/- The text that a path leads to. -/
def readText (world : World) (cwd : Location) (p : Path) :
    Except Unread Chars :=
  match world.files.locate cwd p with
  | .error e => .error (.closed (reason e))
  | .ok loc =>
    match world.files.node? loc with
    | some (.file content _) => .ok (Octet.decode content)
    | some .directory => .error .directory
    | _ => .ok []

/- A text that a program is to work on. -/
structure Source where
  /- The word that named it. -/
  name : String
  text : Except Unread Chars

namespace Source

/- Whether a text comes from the input of the program. -/
def isInput (source : Source) : Bool :=
  source.name == "-"

end Source

/- The word for the input of the program. -/
def inputWord : String := "-"

/- The texts that words name.  The input is empty the second time. -/
def sourcesFrom (world : World) (start : Start) :
    List UInt8 → List String → List Source
  | _, [] => []
  | input, word :: rest =>
    if word == inputWord then
      ⟨word, .ok (Octet.decode input)⟩ :: sourcesFrom world start [] rest
    else
      ⟨word, readText world start.cwd word⟩
        :: sourcesFrom world start input rest

/- The texts that words name; without a word it is the input. -/
def sources (world : World) (start : Start) (words : List String) :
    List Source :=
  sourcesFrom world start start.stdin
    (if words.isEmpty then [inputWord] else words)

/- What is left of the input once the words have been worked on. -/
def leftAfter? (words : List String) : Option (List UInt8) :=
  if words.isEmpty || words.contains inputWord then some [] else none

------------------------------------------------------------
-- Lines
------------------------------------------------------------

/- The pieces of a text, each with the mark that ends it. -/
def piecesBy (mark : Char) (text : Chars) : List Chars :=
  let (piece, pieces) := text.foldl
    (fun ((piece : Chars), (pieces : List Chars)) c =>
      if c == mark then ([], (c :: piece).reverse :: pieces)
      else (c :: piece, pieces))
    ([], [])
  (if piece.isEmpty then pieces else piece.reverse :: pieces).reverse

/- The lines of a text, each with the line feed that ends it. -/
def pieces (text : Chars) : List Chars :=
  piecesBy '\n' text

/- A piece without its mark. -/
def withoutMark (mark : Char) (piece : Chars) : Chars :=
  if piece.getLast? == some mark then piece.dropLast else piece

/- The lines of a text, with no line feeds. -/
def linesOf (text : Chars) : List Chars :=
  (pieces text).map (withoutMark '\n')

/- The lines of a text that another mark may end. -/
def linesBy (mark : Char) (text : Chars) : List Chars :=
  (piecesBy mark text).map (withoutMark mark)

/- The text of lines, each with a mark behind it. -/
def joinLines (mark : Char) (lines : List Chars) : Chars :=
  lines.flatMap (· ++ [mark])

/- Texts with something between each two of them. -/
def joinWith (between : Chars) : List Chars → Chars
  | [] => []
  | [text] => text
  | text :: rest => text ++ between ++ joinWith between rest

/- The parts of a text between marks. -/
def fieldsBy (mark : Char) (text : Chars) : List Chars :=
  let (field, fields) := text.foldl
    (fun ((field : Chars), (fields : List Chars)) c =>
      if c == mark then ([], field.reverse :: fields)
      else (c :: field, fields))
    ([], [])
  (field.reverse :: fields).reverse

/- The words of a text between blanks. -/
def wordsOf (text : Chars) : List Chars :=
  let (word, words) := text.foldl
    (fun ((word : Chars), (words : List Chars)) c =>
      if Octet.isSpace c then
        ([], if word.isEmpty then words else word.reverse :: words)
      else (c :: word, words))
    ([], [])
  (if word.isEmpty then words else word.reverse :: words).reverse

/- Blanks in front of a text, up to a width. -/
def padLeft (width : Nat) (text : Chars) : Chars :=
  List.replicate (width - text.length) ' ' ++ text

/- Blanks behind a text, up to a width. -/
def padRight (width : Nat) (text : Chars) : Chars :=
  text ++ List.replicate (width - text.length) ' '

/- The digits of a number. -/
def digits (n : Nat) : Chars :=
  (toString n).toList

------------------------------------------------------------
-- Reports
------------------------------------------------------------

/- What a program printed and complained about so far. -/
structure Report where
  /- The newest comes first. -/
  printed : List Printed
  status : Int

namespace Report

/- A report with nothing in it. -/
def new : Report := ⟨[], 0⟩

/- Print characters. -/
def print (report : Report) (text : Chars) : Report :=
  if text.isEmpty then report
  else { report with
    printed := ⟨false, Octet.encode text⟩ :: report.printed }

/- Say something on the standard error. -/
def remark (report : Report) (text : String) : Report :=
  { report with
    printed := ⟨true, RawByte.encode (text ++ "\n")⟩ :: report.printed }

/- Complain, which makes the program fail in the end. -/
def complain (report : Report) (status : Int) (text : String) : Report :=
  { report.remark text with status := max status report.status }

/- The program with this report. -/
def finish
    (report : Report)
    (world : World)
    (left? : Option (List UInt8)) : Ran :=
  { world, code := some report.status, printed := report.printed.reverse,
    left? }

end Report

/- The text between quotes. -/
def quoted (text : String) : String :=
  "'" ++ text ++ "'"

/- Complaint about a text that could not be read. -/
def unreadText (program : String) (name : String) (unread : Unread) :
    String :=
  program ++ ": " ++ name ++ ": " ++ unread.why

/- Work on texts one after another, and complain about missing ones. -/
def overSources {α : Type}
    (program : String)
    (status : Int)
    (sources : List Source)
    (seed : α)
    (report : Report)
    (action : α → Report → Source → Chars → α × Report) : α × Report :=
  sources.foldl
    (fun (state, report) source =>
      match source.text with
      | .ok text => action state report source text
      | .error unread =>
        (state, report.complain status
          (unreadText program source.name unread)))
    (seed, report)

end Tools

end Sandbox

end TreeLint
