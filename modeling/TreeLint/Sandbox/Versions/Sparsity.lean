import TreeLint.Sandbox.Versions.WorkTree

/-
  Files that are kept out of the work tree.

  Key definitions include:
    * `Sparsity.rules?`
    * `Sparsity.isWanted`
    * `Sparsity.settle`
    * `Sparsity.Cone`

  A repository may say by rules which files it wants in its
  work tree.  The rules read like those for ignored files, but
  a path may be wanted again inside of a directory that is not.
  Rules may also be made from a list of directories.
-/

------------------------------------------------------------
-- Rules
------------------------------------------------------------

namespace TreeLint

namespace Sandbox

namespace Versions

namespace Sparsity

/- What is wanted in a work tree. -/
structure Rules where
  list : List Ignored.Rule
  foldsCase : Bool

/- The rules of a text. -/
def Rules.ofText (site : Site) (text : String) : Rules :=
  ⟨Ignored.Rule.ofText text, site.flag "core.ignorecase" false⟩

/- The file with the rules of a work tree. -/
def fileOf (site : Site) : Location :=
  site.admin ++ ["info", "sparse-checkout"]

/- Whether only some files are wanted in a work tree. -/
def isOn (site : Site) : Bool :=
  site.flag "core.sparsecheckout" false

/- The text of the rules of a work tree. -/
def text? (site : Site) (t : FileTree) : Option String :=
  match t.node? (fileOf site) with
  | some (.file content _) => some (RawByte.decode content)
  | _ => none

/- The rules of a work tree, if they are to be followed. -/
def rules? (site : Site) (t : FileTree) : Option Rules :=
  if isOn site then (text? site t).map (Rules.ofText site) else none

/-
  Whether a path is wanted.  The rules are asked about all
  directories on the way, and the last answer counts.
-/
def isWanted (rules : Rules) (p : Path) : Bool :=
  let names := namesOf p
  (List.range names.length).foldl
    (fun wanted n =>
      match Ignored.lastFitting? rules.list rules.foldsCase
          (n + 1 < names.length) (names.take (n + 1)) with
      | some rule => !rule.negative
      | none => wanted)
    false

------------------------------------------------------------
-- Following The Rules
------------------------------------------------------------

/- Whether a file of the work tree may go, or has gone. -/
def mayGo (desk : Desk) (lens : Lens) (e : Entry) : Bool :=
  (WorkTree.nodeAt? desk.site desk.files e.path).isNone
    || WorkTree.seen? desk.site desk.files lens (some e) e.path
      == some e.file

/- Make one entry and its file follow the rules. -/
def settleEntry (rules : Rules) (lens : Lens) (desk : Desk) (e : Entry) :
    Desk :=
  let p := e.path
  let withEntry (files : FileTree) (e : Entry) : Desk :=
    { desk with
      world := desk.world.withFiles files
      index := desk.index.put e }
  match e.skipped, isWanted rules p with
  | false, false =>
    if mayGo desk lens e then
      withEntry (WorkTree.remove desk.site desk.files p)
        { e with skipped := true, worn := none }
    else desk
  | true, true =>
    let e := { e with skipped := false }
    if (WorkTree.nodeAt? desk.site desk.files p).isSome then
      withEntry desk.files e
    else
      let files := WorkTree.layOut desk.site lens desk.files p e.file
      withEntry files (WorkTree.worn desk.site files e)
  | _, _ => desk

/- Make the entries of some paths, and their files, follow the rules. -/
def settle (rules : Rules) (lens : Lens) (isMeant : Path → Bool)
    (desk : Desk) : Desk :=
  (desk.index.filter
    (fun e => e.stage == 0 && isMeant e.path)).foldl
    (settleEntry rules lens) desk

------------------------------------------------------------
-- Directories
------------------------------------------------------------

/-
  Directories that are wanted with all that lies in them,
  besides the files next to them and to those above them.
-/
abbrev Cone := List Location

namespace Cone

/- The directory that a word names. -/
def ofWord (word : String) : Location :=
  let p := String.ofList
    ((word.toList.dropWhile Settings.isSpace).reverse.dropWhile
      Settings.isSpace).reverse
  (Path.segments (Path.normalize p)).filter
    (fun name => !Path.isIdle name)

/- The directories of a cone that do not lie in another one. -/
def outermost (cone : Cone) : Cone :=
  ((cone.filter (fun loc => !loc.isEmpty)).eraseDups.filter fun loc =>
    !cone.any (fun other =>
      !other.isEmpty && other != loc && other.isPrefixOf loc)).mergeSort
    (fun a b => RawByte.precedes (Location.toPath a) (Location.toPath b))

/- The directories above those of a cone. -/
def above (cone : Cone) : List Location :=
  ((outermost cone).flatMap fun loc =>
    ((List.range loc.length).drop 1).map fun n =>
      loc.take n).eraseDups.mergeSort
    (fun a b => RawByte.precedes (Location.toPath a) (Location.toPath b))

/- A directory as a rule. -/
def written (loc : Location) : String :=
  String.ofList ((Location.toPath loc).toList.flatMap fun c =>
    if ['*', '?', '[', '\\'].contains c then ['\\', c] else [c])

/- The rules that a cone stands for. -/
def toText (cone : Cone) : String :=
  "/*\n!/*/\n"
    ++ String.join ((above cone).map fun loc =>
      written loc ++ "/\n!" ++ written loc ++ "/*/\n")
    ++ String.join ((outermost cone).map fun loc => written loc ++ "/\n")

/- A text without the backslashes that quote characters. -/
def unquoted : List Char → List Char
  | '\\' :: c :: rest => c :: unquoted rest
  | c :: rest => c :: unquoted rest
  | [] => []

/- The cone that rules stand for. -/
def ofText (text : String) : Cone :=
  let lines := Text.splitAt '\n' text
  lines.filterMap fun line =>
    if line.startsWith "/" && line.endsWith "/"
        && !lines.contains ("!" ++ line ++ "*/") then
      some (ofWord (String.ofList (unquoted line.toList)))
    else none

end Cone

end Sparsity

end Versions

end Sandbox

end TreeLint
