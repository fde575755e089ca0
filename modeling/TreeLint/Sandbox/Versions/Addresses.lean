import TreeLint.Text.Lines
import TreeLint.Text.Numeral

/-
  Addresses that settings hold for.

  Key definitions include:
    * `Address`
    * `Address.parse?`
    * `Address.fit?`

  Settings may hold for addresses only that begin as another
  one does.  The more parts agree, the better they fit.
-/

------------------------------------------------------------
-- Addresses
------------------------------------------------------------

namespace TreeLint

namespace Sandbox

namespace Versions

/- An address in parts. -/
structure Address where
  scheme : String
  user? : Option String
  host : String
  port : String
  path : String
deriving DecidableEq, Repr

namespace Address

/- The ports that need not be told. -/
def usualPorts : List (String × String) :=
  [("http", "80"), ("https", "443"), ("ssh", "22"), ("git", "9418"),
    ("ftp", "21"), ("ftps", "990")]

/- A text cut at the first one of some characters. -/
def cut (isEnd : Char → Bool) (text : List Char) : List Char × List Char :=
  let front := text.takeWhile (fun c => !isEnd c)
  (front, text.drop front.length)

/- The parts of an address. -/
def parse? (text : String) : Option Address :=
  let (scheme, rest) := cut (· == ':') text.toList
  let isScheme := (scheme.head?).any Char.isAlpha
    && scheme.all fun c => c.isAlphanum || "+.-".toList.contains c
  match isScheme, rest with
  | true, ':' :: '/' :: '/' :: rest =>
    let (place, path) := cut (fun c => c == '/' || c == '?' || c == '#') rest
    let (user?, place) : Option String × List Char :=
      match cut (· == '@') place with
      | (user, '@' :: place) => (some (String.ofList user), place)
      | _ => (none, place)
    let (host, port) := cut (· == ':') place
    let scheme := (String.ofList scheme).toLower
    let port := String.ofList (port.drop 1)
    let isUsual := usualPorts.lookup scheme == some port
    let isGoodPort := port.toList.all Numeral.isDigit
    if (host.isEmpty && scheme != "file") || !isGoodPort then none
    else
      some ⟨scheme, user?, (String.ofList host).toLower,
        if isUsual then "" else port,
        if path.isEmpty then "/" else String.ofList path⟩
  | _, _ => none

/- Whether the names of a host fit; a star stands for one of them. -/
def hostFits (pattern host : String) : Bool :=
  let wanted := Text.splitAt '.' pattern
  let names := Text.splitAt '.' host
  wanted.length == names.length
    && (wanted.zip names).all fun (a, b) => a == "*" || a == b

/- How well an address fits another one that settings are for. -/
def fit? (pattern a : Address) : Option (Nat × Nat × Nat) :=
  let isUser := pattern.user?.isNone || pattern.user? == a.user?
  let front := if pattern.path.endsWith "/" then pattern.path
    else pattern.path ++ "/"
  let isPath := a.path == pattern.path || a.path.startsWith front
  if pattern.scheme == a.scheme && pattern.port == a.port && isUser
      && hostFits pattern.host a.host && isPath then
    some (pattern.host.length, pattern.path.length,
      if pattern.user?.isSome then 1 else 0)
  else none

end Address

end Versions

end Sandbox

end TreeLint
