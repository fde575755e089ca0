import TreeLint.Path.Wildcard
import TreeLint.Sandbox.Versions.References

/-
  Files that version control is told to ignore.

  Key definitions include:
    * `Ignored.Rule`
    * `Ignored.Rule.ofLine?`
    * `Ignored.Rules`
    * `Ignored.isIgnored`

  A file in a directory of the work tree may hold rules for
  what lies below, and there are rules for all directories
  too.  The last rule of the deepest file that fits decides,
  and what lies in an ignored directory is ignored too.
-/

------------------------------------------------------------
-- Rules
------------------------------------------------------------

namespace TreeLint

namespace Sandbox

namespace Versions

namespace Ignored

/- The name of the files that hold rules. -/
def fileName : String := ".gitignore"

/- A rule about paths. -/
structure Rule where
  /- A rule that takes paths back. -/
  negative : Bool
  onlyDirectories : Bool
  /- The pattern is meant for the last name of a path. -/
  forNames : Bool
  pattern : String
deriving DecidableEq, Repr

namespace Rule

/- A text without the blanks at its end that are not escaped. -/
def withoutBlanks : List Char → List Char
  | [] => []
  | ['\\'] => ['\\']
  | '\\' :: c :: rest => '\\' :: c :: withoutBlanks rest
  | c :: rest =>
    if c == ' ' && rest.all (· == ' ') then []
    else c :: withoutBlanks rest

/- The rule that a pattern gives. -/
def ofPattern (text : List Char) : Rule :=
  let (negative, text) := match text with
    | '!' :: rest => (true, rest)
    | text => (false, text)
  let (onlyDirectories, text) :=
    if text.getLast? == some '/' then (true, text.dropLast)
    else (false, text)
  ⟨negative, onlyDirectories, !text.contains '/', String.ofList text⟩

/- The rule on a line, if there is one. -/
def ofLine? (line : List Char) : Option Rule :=
  let line := match line.reverse with
    | '\r' :: rest => rest.reverse
    | _ => line
  match line with
  | [] => none
  | '#' :: _ => none
  | line => some (ofPattern (withoutBlanks line))

/- The rules of a text. -/
def ofText (text : String) : List Rule :=
  let chars := match text.toList with
    | '\uFEFF' :: rest => rest
    | chars => chars
  (Text.pieces (· == '\n') chars).filterMap ofLine?

/- A text without a slash at its start. -/
def withoutRoot (pattern : String) : String :=
  if pattern.startsWith "/" then without "/" pattern else pattern

/- Whether a rule fits a path, seen from the directory of the rule. -/
def applies (rule : Rule) (foldsCase isDirectory : Bool)
    (names : List String) : Bool :=
  (isDirectory || !rule.onlyDirectories)
    && if rule.forNames then
        Wildcard.fitsBehindStart ⟨false, foldsCase⟩ rule.pattern
          (names.getLast?.getD "")
      else
        Wildcard.fitsBehindStart ⟨true, foldsCase⟩
          (withoutRoot rule.pattern) (Text.joinWith "/" names)

end Rule

------------------------------------------------------------
-- Decisions
------------------------------------------------------------

/- The rules for a work tree. -/
structure Rules where
  /- Rules of directories, by the names that lead to them. -/
  inTree : List (Location × List Rule)
  /- Rules for all directories, the stronger list first. -/
  outer : List (List Rule)
  foldsCase : Bool

/- The last rule of a list that fits a path. -/
def lastFitting? (rules : List Rule) (foldsCase isDirectory : Bool)
    (names : List String) : Option Rule :=
  rules.reverse.find? (fun rule =>
    rule.applies foldsCase isDirectory names)

/- What the rules say about a path, if anything. -/
def verdict? (rules : Rules) (isDirectory : Bool)
    (names : List String) : Option Bool :=
  let inner := (List.range names.length).reverse.findSome? fun depth =>
    (rules.inTree.lookup (names.take depth)).bind fun list =>
      lastFitting? list rules.foldsCase isDirectory (names.drop depth)
  let found? := match inner with
    | some rule => some rule
    | none => rules.outer.findSome? fun list =>
        lastFitting? list rules.foldsCase isDirectory names
  found?.map (fun rule => !rule.negative)

/- Whether a file or directory below the top is ignored. -/
def isIgnored (rules : Rules) (isDirectory : Bool)
    (names : List String) : Bool :=
  (List.range names.length).any fun depth =>
    (verdict? rules (isDirectory || depth + 1 < names.length)
      (names.take (depth + 1))).getD false

/- The path of a file of the user, from a setting or a custom. -/
def userFile? (site : Site) (setting name : String) : Option Path :=
  match site.text? setting with
  | some "" => none
  | some p =>
    if p.startsWith "~/" then
      (site.valueOf? "HOME").map (· ++ without "~" p)
    else if Path.isAbsolute p then some p
    else some ((site.top).toPath ++ "/" ++ p)
  | none =>
    match site.valueOf? "XDG_CONFIG_HOME", site.valueOf? "HOME" with
    | some "", home? => home?.map (· ++ "/.config/git/" ++ name)
    | some directory, _ => some (directory ++ "/git/" ++ name)
    | none, home? => home?.map (· ++ "/.config/git/" ++ name)

/- The rules that hold for a work tree. -/
def rulesOf (site : Site) (t : FileTree) : Rules :=
  let textAt (p : Path) : String :=
    match t.read? site.call.cwd p with
    | some content => RawByte.decode content
    | none => ""
  let inTree := t.nodes.filterMap fun (loc, node) =>
    match node with
    | .file content _ =>
      if loc.getLast? == some fileName && site.top.isPrefixOf loc then
        some (loc.dropLast.drop site.top.length,
          Rule.ofText (RawByte.decode content))
      else
        none
    | _ => none
  let outer :=
    Rule.ofText (textAt (site.common ++ ["info", "exclude"]).toPath)
      :: ((userFile? site "core.excludesfile" "ignore").map
        (fun p => Rule.ofText (textAt p))).toList
  ⟨inTree, outer, site.flag "core.ignorecase" false⟩

end Ignored

end Versions

end Sandbox

end TreeLint
