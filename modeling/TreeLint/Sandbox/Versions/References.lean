import TreeLint.Sandbox.Versions.Site

/-
  Names for commits.

  Key definitions include:
    * `Versions.Site.reference?`
    * `Versions.Site.headName?`
    * `Versions.Site.head?`
    * `Versions.Site.setReference`
    * `Versions.Site.setHead`
    * `Versions.isGoodName`

  A reference is a file with the name of a commit in it, or
  with the name of another reference.  The head of a work tree
  mostly is of the second kind.  Beside some references a log
  is kept of what they were before.
-/

------------------------------------------------------------
-- Where References Are
------------------------------------------------------------

namespace TreeLint

namespace Sandbox

namespace Versions

/- The node of a text file. -/
def textFile (text : String) : Node :=
  .file (RawByte.encode text) false

/- The beginning of the names of branches. -/
def branchStart : String := "refs/heads/"

/- The beginning of the names of tags. -/
def tagStart : String := "refs/tags/"

/- The name of the head. -/
def headName : String := "HEAD"

/- A text without a beginning that it has. -/
def without (front text : String) : String :=
  String.ofList (text.toList.drop front.length)

/- The name of a branch, as it is shown. -/
def shortName (name : String) : String :=
  if name.startsWith branchStart then without branchStart name
  else if name.startsWith tagStart then without tagStart name
  else if name.startsWith referenceStart then without referenceStart name
  else name

/- The names of a path. -/
def namesOf (p : Path) : Location :=
  p.segments.filter (fun segment => !segment.isEmpty)

namespace Site

/- Whether a reference belongs to a work tree of its own. -/
def isOwnReference (name : String) : Bool :=
  !name.startsWith referenceStart
    || name.startsWith "refs/bisect/"
    || name.startsWith "refs/worktree/"
    || name.startsWith "refs/rewritten/"

/- The directory that holds a reference. -/
def baseOf (site : Site) (name : String) : Location :=
  if isOwnReference name then site.admin else site.common

/- The file of a reference. -/
def referenceFile (site : Site) (name : String) : Location :=
  site.baseOf name ++ namesOf name

/- The file of the log of a reference. -/
def logFile (site : Site) (name : String) : Location :=
  site.baseOf name ++ "logs" :: namesOf name

------------------------------------------------------------
-- Reading References
------------------------------------------------------------

/- The name of a commit, or of another reference. -/
inductive Target where
  | commit (id : String)
  | other (name : String)
deriving DecidableEq, Repr

/- What a reference stands for by itself. -/
def target? (site : Site) (t : FileTree) (name : String) :
    Option Target :=
  match t.node? (site.referenceFile name) with
  | some (.file content _) =>
    let text := RawByte.decode content
    match symbolic? text with
    | some other =>
      some (.other (String.ofList
        (other.toList.reverse.dropWhile Settings.isSpace).reverse))
    | none =>
      let id := String.ofList (text.toList.take 40)
      if isId id then some (.commit id) else none
  | some (.link target) =>
    if target.startsWith referenceStart then some (.other target) else none
  | _ => none

/- The reference at the end of references to references. -/
def lastName (site : Site) (t : FileTree) : Nat → String → String
  | 0, name => name
  | depth + 1, name =>
    match site.target? t name with
    | some (.other next) => lastName site t depth next
    | _ => name

/- The commit that a reference stands for. -/
def reference? (site : Site) (t : FileTree) (name : String) :
    Option String :=
  match site.target? t (site.lastName t 5 name) with
  | some (.commit id) => some id
  | _ => none

/- The branch that the head is on, by its full name. -/
def headName? (site : Site) (t : FileTree) : Option String :=
  match site.target? t headName with
  | some (.other name) => some name
  | _ => none

/- The last commit. -/
def head? (site : Site) (t : FileTree) : Option String :=
  site.reference? t headName

/- All references with a beginning, in the order of their bytes. -/
def references (site : Site) (t : FileTree) (front : String) :
    List String :=
  let base := site.common
  let names := t.nodes.filterMap fun (loc, node) =>
    match node with
    | .file _ _ =>
      if base.isPrefixOf loc then
        let name := Text.joinWith "/" (loc.drop base.length)
        if name.startsWith front && (site.reference? t name).isSome then
          some name
        else
          none
      else
        none
    | _ => none
  names.mergeSort RawByte.precedes

/- The shapes in which a name may stand for a reference. -/
def candidates (name : String) : List String :=
  [ name, "refs/" ++ name, tagStart ++ name, branchStart ++ name,
    "refs/remotes/" ++ name, "refs/remotes/" ++ name ++ "/HEAD" ]

/- The reference that a name stands for. -/
def named? (site : Site) (t : FileTree) (name : String) :
    Option String :=
  (candidates name).find? (fun full => (site.reference? t full).isSome)

------------------------------------------------------------
-- Logs
------------------------------------------------------------

/- A line of a log. -/
structure Line where
  old : String
  new : String
  message : String

/- The name that stands for no commit. -/
def noId : String := String.ofList (List.replicate 40 '0')

/- The lines of a log, the newest first. -/
def log (site : Site) (t : FileTree) (name : String) : List Line :=
  let text := match t.node? (site.logFile name) with
    | some (.file content _) => RawByte.decode content
    | _ => ""
  ((Text.splitAt '\n' text).filterMap fun line =>
    let chars := line.toList
    if chars.length < 82 then none
    else
      some ⟨String.ofList (chars.take 40),
        String.ofList ((chars.drop 41).take 40),
        String.ofList ((chars.dropWhile (· != '\t')).drop 1)⟩).reverse

/- Whether a log is kept of a reference. -/
def keepsLog (site : Site) (t : FileTree) (name : String) : Bool :=
  (t.node? (site.logFile name)).isSome
    || (site.flag "core.logallrefupdates" site.top?.isSome
      && (name == headName || name.startsWith branchStart
        || name.startsWith "refs/remotes/"
        || name.startsWith "refs/notes/"))

/- Put a file into a tree, with the directories above it. -/
def putDeep (t : FileTree) (loc : Location) (node : Node) : FileTree :=
  match t.makeAlong [] loc.dropLast with
  | .ok (t, _) => t.put loc node
  | .error _ => t

/- The text of a line of a log. -/
def logLine (line : Line) : String :=
  line.old ++ " " ++ line.new
    ++ " test <test@example.com> 1700000000 +0000\t" ++ line.message ++ "\n"

/- Add a line to a log. -/
def addLine (site : Site) (t : FileTree) (name : String) (line : Line) :
    FileTree :=
  let file := site.logFile name
  let before := match t.node? file with
    | some (.file content _) => content
    | _ => []
  putDeep t file (.file (before ++ RawByte.encode (logLine line)) false)

/- Add a line to a log, if one is kept. -/
def note (site : Site) (t : FileTree) (name : String) (old : Option String)
    (new message : String) : FileTree :=
  if site.keepsLog t name then
    site.addLine t name ⟨old.getD noId, new, message⟩
  else
    t

------------------------------------------------------------
-- Changing References
------------------------------------------------------------

/- Remove the directories that have become empty below a base. -/
def pruneAbove (t : FileTree) (base : Location) : List String → FileTree
  | [] => t
  | name :: above =>
    let loc := base ++ (name :: above).reverse
    if t.isDirectoryAt loc && t.isEmptyAt loc then
      pruneAbove (t.erase loc) base above
    else
      t

/- Whether a reference can be written. -/
def canWrite (site : Site) (t : FileTree) (name : String) : Bool :=
  let names := namesOf name
  let base := site.baseOf name
  let clear := (List.range names.length).all fun n =>
    match t.node? (base ++ names.take n) with
    | some .directory => true
    | none => true
    | _ => false
  let below := t.nodes.any fun (loc, node) =>
    (base ++ names).isPrefixOf loc && loc != base ++ names
      && node != .directory
  clear && !below

/- Write the name of a commit into the file of a reference. -/
def writeTarget (site : Site) (t : FileTree) (name : String)
    (target : Target) : FileTree :=
  let text := match target with
    | .commit id => id ++ "\n"
    | .other name => "ref: " ++ name ++ "\n"
  let loc := site.referenceFile name
  let t := if t.isDirectoryAt loc then t.erase loc else t
  putDeep t loc (textFile text)

/-
  Let a reference stand for a commit.  Where it stands for
  another reference, that one is changed, and both logs tell.
-/
def setReference (site : Site) (t : FileTree) (name id message : String) :
    FileTree :=
  let old := site.reference? t name
  let last := site.lastName t 5 name
  let t := site.writeTarget t last (.commit id)
  let t := site.note t last old id message
  if last != name then site.note t name old id message
  else if site.headName? t == some name then
    site.note t headName old id message
  else t

/- Let the head stand for a branch or for a commit. -/
def setHead (site : Site) (t : FileTree) (target : Target)
    (message : String) : FileTree :=
  let old := site.head? t
  let t := site.writeTarget t headName target
  match site.head? t with
  | some new => site.note t headName old new message
  | none => t

/- Take a reference away, with its log. -/
def dropReference (site : Site) (t : FileTree) (name : String) :
    FileTree :=
  let base := site.baseOf name
  let front := (namesOf name).take 2
  let above := ((namesOf name).drop 2).reverse.drop 1
  let t := t.erase (site.referenceFile name)
  let t := t.erase (site.logFile name)
  let t := pruneAbove t (base ++ "logs" :: front) above
  pruneAbove t (base ++ front) above

end Site

------------------------------------------------------------
-- Good Names
------------------------------------------------------------

/- The characters that no name of a reference may hold. -/
def isBadInName (c : Char) : Bool :=
  c.toNat ≤ 0x20 || c.toNat == 0x7F || " ~^:?*[\\".toList.contains c

/- Whether a reference may have a name. -/
def isGoodName (name : String) : Bool :=
  let parts := Text.splitAt '/' name
  !name.isEmpty && name != "@"
    && !name.toList.any isBadInName
    && !name.endsWith "."
    && (Text.splitAt '/' name).all (fun part =>
      !part.isEmpty && !part.startsWith "." && !part.endsWith ".lock")
    && !hasPair '.' '.' name.toList
    && !hasPair '@' '\x7b' name.toList
    && parts.length < 100
where
  /- Whether two characters stand side by side. -/
  hasPair (a b : Char) : List Char → Bool
    | c :: d :: rest => (c == a && d == b) || hasPair a b (d :: rest)
    | _ => false

/- Whether a branch may have a name. -/
def isGoodBranch (name : String) : Bool :=
  isGoodName name && !name.startsWith "-" && name != headName

end Versions

end Sandbox

end TreeLint
