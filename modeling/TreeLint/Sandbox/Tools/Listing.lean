import TreeLint.Sandbox.Tools.Inputs

/-
  The program that lists directories.

  Key definitions include:
    * `Tools.Entry`
    * `Tools.Listing`
    * `Tools.ls`

  Files are listed first, then what is in directories.  Each
  name is on a line of its own, with a sign behind it if its
  kind is to be seen.
-/

------------------------------------------------------------
-- Entries
------------------------------------------------------------

namespace TreeLint

namespace Sandbox

namespace Tools

/- Something that is listed. -/
structure Entry where
  /- The name as it is shown. -/
  name : String
  loc : Location
  node : Node
deriving Repr

/- How directories are listed. -/
structure Listing where
  /- All names, or all but those of the directory itself. -/
  hidden? : Option Char
  isDeep : Bool
  isReversed : Bool
  onlySelf : Bool
  follows : Bool
  /- Which signs stand behind names. -/
  signs? : Option Char
  bySize : Bool
  byVersion : Bool
  unsorted : Bool
  byEnding : Bool
  separator : String
  showsSize : Bool

namespace Listing

/- The sign for the kind of an entry. -/
def sign (listing : Listing) (files : FileTree) (entry : Entry) : String :=
  let full := listing.signs? == some 'F'
  match listing.signs?, entry.node with
  | none, _ => ""
  | _, .directory => "/"
  | some 'p', _ => ""
  | _, .link _ =>
    if listing.follows then
      match files.resolved? [] entry.loc.toPath with
      | some (_, .directory) => "/"
      | _ => ""
    else "@"
  | _, .pipe => "|"
  | _, .file _ isExecutable => if full && isExecutable then "*" else ""

/- The size of an entry. -/
def size (entry : Entry) : Nat :=
  match entry.node with
  | .file content _ => content.length
  | .link target => target.utf8ByteSize
  | .directory => 4096
  | .pipe => 0

/- The ending of a name, with its point. -/
def ending (name : String) : List UInt8 :=
  let chars := name.toList
  if chars.contains '.' then
    RawByte.encode (String.ofList
      ('.' :: (chars.reverse.takeWhile (· != '.')).reverse))
  else []

/- Entries in the order in which they are listed. -/
def ordered (listing : Listing) (entries : List Entry) : List Entry :=
  let byName := entries.mergeSort
    fun a b => RawByte.precedes a.name b.name
  let sorted :=
    if listing.bySize then
      byName.mergeSort fun a b => decide (size b ≤ size a)
    else if listing.byEnding then
      byName.mergeSort fun a b => decide (ending a.name ≤ ending b.name)
    else byName
  if listing.isReversed && !listing.unsorted then sorted.reverse else sorted

/- The lines of entries. -/
def lines (listing : Listing) (files : FileTree) (entries : List Entry) :
    String :=
  let texts := (listing.ordered entries).map fun entry =>
    entry.name ++ listing.sign files entry
  if texts.isEmpty then ""
  else if listing.separator == "\n" then
    String.join (texts.map (· ++ "\n"))
  else String.intercalate listing.separator texts ++ "\n"

/- The entries in a directory. -/
def entriesIn (listing : Listing) (files : FileTree) (loc : Location) :
    List Entry :=
  let names := (files.names loc).filter fun name =>
    listing.hidden?.isSome || !name.startsWith "."
  let inner := names.filterMap fun name =>
    (files.node? (loc ++ [name])).map fun node =>
      (⟨name, loc ++ [name], node⟩ : Entry)
  if listing.hidden? == some 'a' then
    ⟨".", loc, .directory⟩ :: ⟨"..", loc.dropLast, .directory⟩ :: inner
  else inner

/- The path of a name in a directory, as it is shown. -/
def below (p : Path) (name : String) : Path :=
  if p.endsWith "/" then p ++ name else p ++ "/" ++ name

/- The sections of directories, each with its path. -/
def sections (listing : Listing) (files : FileTree) :
    Nat → Path → Location → List (Path × String)
  | 0, _, _ => []
  | depth + 1, p, loc =>
    let entries := listing.entriesIn files loc
    (p, listing.lines files entries)
      :: (if listing.isDeep then
          (listing.ordered entries).flatMap fun entry =>
            if entry.node == .directory && entry.name != "."
                && entry.name != ".." then
              sections listing files depth (below p entry.name) entry.loc
            else []
        else [])

end Listing

------------------------------------------------------------
-- The Program
------------------------------------------------------------

/- How deep directories are listed. -/
def listingDepth : Nat := 128

/- List files and what is in directories. -/
def ls (world : World) (start : Start) : Ran :=
  withOptions "ls" 2
    ⟨"aAbBcCdfFgGhHiklLmnNopqQrRsStuUvxXZ1", "ITwD\x01\x02",
      [ ("all", 'a'), ("almost-all", 'A'), ("directory", 'd'),
        ("classify", 'F'), ("file-type", '\x03'), ("recursive", 'R'),
        ("reverse", 'r'), ("dereference", 'L'), ("color", 'G'),
        ("human-readable", 'h'), ("size", 's'), ("sort", '\x01'),
        ("indicator-style", '\x02'), ("group-directories-first", 'Z'),
        ("quoting-style", 'D'), ("width", 'w'), ("ignore", 'I'),
        ("literal", 'N'), ("zero", 'Z') ]⟩
    world start fun options =>
      let files := world.files
      let listing : Listing :=
        { hidden? := (options.last "aAf").map fun c =>
            if c == 'A' then 'A' else 'a'
          isDeep := options.has 'R' && !options.has 'd'
          isReversed := options.has 'r'
          onlySelf := options.has 'd'
          follows := options.has 'L'
          signs? := match options.last "Fp\x02" with
            | some 'F' => some 'F'
            | some 'p' => some 'p'
            | some _ =>
              match options.value? '\x02' with
              | some "classify" => some 'F'
              | some "slash" => some 'p'
              | some "file-type" => some 't'
              | _ => none
            | none => none
          bySize := options.has 'S' || options.value? '\x01' == some "size"
          byVersion := options.has 'v'
          unsorted := options.has 'U' || options.has 'f'
          byEnding := options.has 'X'
            || options.value? '\x01' == some "extension"
          separator := if options.last "1mCxl" == some 'm' then ", "
            else "\n"
          showsSize := options.has 's' }
      let words := if options.words.isEmpty then ["."] else options.words
      let (entries, directories, report) := words.foldl
        (fun ((entries : List Entry),
            (directories : List (Path × Location)), (report : Report)) p =>
          let place := files.locateEntry start.cwd p
          let target := files.resolved? start.cwd p
          match place.toOption.bind fun loc =>
              (files.node? loc).map fun node => (loc, node) with
          | none =>
            (entries, directories,
              report.complain 2
                ("ls: cannot access " ++ quoted p ++ ": "
                  ++ (match place with
                    | .error e => reason e
                    | .ok _ => "No such file or directory")))
          | some (loc, node) =>
            match listing.onlySelf, target with
            | false, some (dir, .directory) =>
              if listing.signs? == some 'F' && node != .directory
                  && !p.endsWith "/" then
                (⟨p, loc, node⟩ :: entries, directories, report)
              else
                (entries, (p, dir) :: directories, report)
            | _, some (dir, shown) =>
              (⟨p, if listing.follows then dir else loc,
                if listing.follows then shown else node⟩ :: entries,
                directories, report)
            | _, none => (⟨p, loc, node⟩ :: entries, directories, report))
        ([], [], .new)
      let own := listing.lines files entries
      let sorted := directories.mergeSort
        fun a b => RawByte.precedes a.1 b.1
      let sorted := if listing.isReversed then sorted.reverse else sorted
      let sections := sorted.flatMap fun (p, loc) =>
        listing.sections files listingDepth p loc
      let isNamed := words.length > 1 || listing.isDeep
      let texts := sections.map fun (p, text) =>
        (if isNamed then p ++ ":\n" else "") ++ text
      let all := if own.isEmpty then texts else own :: texts
      .ok ((report.print (Octet.ofText (String.intercalate "\n" all))).finish
        world none)

end Tools

end Sandbox

end TreeLint
