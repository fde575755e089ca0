import TreeLint.Path.Wildcard
import TreeLint.Sandbox.Versions.References

/-
  Arguments that stand for files.

  Key definitions include:
    * `Versions.Spec`
    * `Versions.Spec.parse`
    * `Versions.Spec.covers`
    * `Versions.Pathspec.covers`

  An argument is a path or a pattern of paths, seen from the
  working directory.  Words behind a colon in front of it say
  how it is meant: from the top of the work tree on, as it is
  written, with names kept apart, or as what is left out.
-/

------------------------------------------------------------
-- Specifications
------------------------------------------------------------

namespace TreeLint

namespace Sandbox

namespace Versions

/- How an argument is meant. -/
structure Magic where
  fromTop : Bool
  literal : Bool
  /- Stars do not stand for slashes. -/
  keepsNames : Bool
  foldsCase : Bool
  excluded : Bool
deriving DecidableEq

/- An argument that stands for files below the top. -/
structure Spec where
  /- The argument as it was given. -/
  argument : String
  magic : Magic
  /- The pattern, seen from the top. -/
  pattern : Path
deriving DecidableEq

namespace Spec

/- Whether a variable of the environment is switched on. -/
def isOn (site : Site) (name : String) : Bool :=
  match site.valueOf? name with
  | some value => (Settings.boolean? (some value)).getD false
  | none => false

/- How arguments are meant unless they say so themselves. -/
def usual (site : Site) : Magic where
  fromTop := false
  literal := isOn site "GIT_LITERAL_PATHSPECS"
    || isOn site "GIT_NOGLOB_PATHSPECS"
  keepsNames := isOn site "GIT_GLOB_PATHSPECS"
  foldsCase := isOn site "GIT_ICASE_PATHSPECS"
  excluded := false

/- The effect of a word. -/
def withWord (magic : Magic) (word : String) : Attempt Magic :=
  if word == "top" then .ok { magic with fromTop := true }
  else if word == "literal" then .ok { magic with literal := true }
  else if word == "glob" then
    .ok { magic with keepsNames := true, literal := false }
  else if word == "icase" then .ok { magic with foldsCase := true }
  else if word == "exclude" then .ok { magic with excluded := true }
  else if word.isEmpty then .ok magic
  else .error (.fatal ("Invalid pathspec magic '" ++ word ++ "'"))

/- The signs behind a colon that have no meaning. -/
def idleSigns : List Char := "\"#%&',-;<=>@_\x60~".toList

/- The signs behind a colon, and what follows them. -/
def signs (argument : String) (magic : Magic) :
    List Char → Attempt (Magic × List Char)
  | '/' :: rest => signs argument { magic with fromTop := true } rest
  | '!' :: rest => signs argument { magic with excluded := true } rest
  | '^' :: rest => signs argument { magic with excluded := true } rest
  | ':' :: rest => .ok (magic, rest)
  | c :: rest =>
    if idleSigns.contains c then
      .error (.fatal ("Unimplemented pathspec magic '"
        ++ String.singleton c ++ "' in '" ++ argument ++ "'"))
    else
      .ok (magic, c :: rest)
  | [] => .ok (magic, [])

/- How an argument is meant, and the pattern in it. -/
def magicOf (site : Site) (argument : String) :
    Attempt (Magic × String) :=
  if isOn site "GIT_LITERAL_PATHSPECS" then
    .ok (usual site, argument)
  else
    match argument.toList with
    | ':' :: '(' :: rest =>
      let inner := rest.takeWhile (· != ')')
      match rest.drop inner.length with
      | [] =>
        .error (.fatal ("Missing ')' at the end of pathspec magic in '"
          ++ argument ++ "'"))
      | _ :: pattern => do
        let magic ← (Text.splitAt ',' (String.ofList inner)).foldlM
          withWord (usual site)
        return (magic, String.ofList pattern)
    | ':' :: rest => do
      let (magic, pattern) ← signs argument (usual site) rest
      return (magic, String.ofList pattern)
    | _ => .ok (usual site, argument)

/- The complaint about a path that is not in the work tree. -/
def outside {α : Type} (site : Site) (p : Path) : Attempt α :=
  .error (.fatal (p ++ ": '" ++ p ++ "' is outside repository at '"
    ++ site.top.toPath ++ "'"))

/- The names of a path, seen from the top of the work tree. -/
def namesFromTop (site : Site) (t : FileTree) (base : Location)
    (p : Path) : Attempt Location :=
  let meaning := Path.meaning
    (if p.isAbsolute then p else Path.join (Location.toPath base) p)
  if !p.isAbsolute then
    let relative := Path.meaning (Text.joinWith "/" (base ++ [p]))
    if relative.up == 0 then .ok relative.names else outside site p
  else if site.top.isPrefixOf meaning.names then
    .ok (meaning.names.drop site.top.length)
  else
    match t.locateEntry [] p with
    | .ok loc =>
      if site.top.isPrefixOf loc then .ok (loc.drop site.top.length)
      else outside site p
    | .error _ => outside site p

/- The specification that an argument gives. -/
def parse (site : Site) (t : FileTree) (argument : String) :
    Attempt Spec :=
  if argument.isEmpty then
    .error (.fatal
      ("empty string is not a valid pathspec. please use . instead "
        ++ "if you meant to match all paths"))
  else do
    let (magic, p) ← magicOf site argument
    let base := if magic.fromTop then [] else site.inner
    let names ← namesFromTop site t base p
    let pattern := Text.joinWith "/" names
    let pattern :=
      if p.endsWith "/" && !names.isEmpty then pattern ++ "/" else pattern
    return ⟨argument, magic, pattern⟩

/- Whether the pattern has characters with a meaning. -/
def isPattern (spec : Spec) : Bool :=
  !spec.magic.literal
    && (RawByte.encode spec.pattern).any Wildcard.isSpecial

/- Whether a path is the one that is written, or lies below it. -/
def covers (spec : Spec) (p : Path) : Bool :=
  let w : Wildcard := ⟨spec.magic.keepsNames, spec.magic.foldsCase⟩
  let pattern := RawByte.encode spec.pattern
  let text := RawByte.encode p
  let front := text.take pattern.length
  pattern.isEmpty
    || (Wildcard.sameBytes w pattern front
      && (text.length == pattern.length
        || pattern.getLast? == some Wildcard.slash
        || text[pattern.length]? == some Wildcard.slash))
    || (spec.isPattern && Wildcard.fitsBehindStart w spec.pattern p)

/- Whether a directory is the one that is written with a slash. -/
def coversDirectory (spec : Spec) (p : Path) : Bool :=
  spec.covers p || spec.covers (p ++ "/")

end Spec

------------------------------------------------------------
-- Lists Of Specifications
------------------------------------------------------------

/- Arguments that together stand for files. -/
abbrev Pathspec := List Spec

namespace Pathspec

/- The specifications that arguments give. -/
def parse (site : Site) (t : FileTree) (arguments : List String) :
    Attempt Pathspec :=
  arguments.mapM (Spec.parse site t)

/- The arguments that stand for files to be taken. -/
def wanted (specs : Pathspec) : Pathspec :=
  specs.filter (fun spec => !spec.magic.excluded)

/-
  Whether arguments stand for a path; none at all stand for
  every path, and so do arguments that only leave some out.
-/
def covers (specs : Pathspec) (p : Path) : Bool :=
  let wanted := specs.wanted
  (wanted.isEmpty || wanted.any (fun spec => spec.covers p))
    && !(specs.any (fun spec => spec.magic.excluded && spec.covers p))

/- The first argument that stands for none of some paths. -/
def unmatched? (specs : Pathspec) (paths : List Path) : Option Spec :=
  specs.wanted.find? (fun spec => !paths.any spec.covers)

end Pathspec

end Versions

end Sandbox

end TreeLint
