import TreeLint.Path.Wildcard
import TreeLint.Sandbox.Versions.Differences
import TreeLint.Sandbox.Versions.Histories

/-
  Naming commits by references.

  Key definitions include:
    * `Describing.nameOf?`
    * `Describing.nearest?`
    * `Describing.describe`

  A commit is named by a reference to it, or else by the
  nearest one that came before it, with the number of commits
  since then.  It may also be named by a later one, with the
  number of steps back from there.
-/

------------------------------------------------------------
-- References That Name
------------------------------------------------------------

namespace TreeLint

namespace Sandbox

namespace Versions

namespace Describing

/- A reference that may name a commit. -/
structure Label where
  text : String
  commit : String
  /- The reference is a tag with a message. -/
  isNoted : Bool

/- Whether a name fits the patterns that are asked for. -/
def isWanted (arguments : Arguments) (name : String) : Bool :=
  let fits (pattern : String) : Bool :=
    Wildcard.fits ⟨false, false⟩ pattern name
  let wanted := arguments.values "match"
  (wanted.isEmpty || wanted.any fits)
    && !(arguments.values "exclude").any fits

/- The references that may name commits. -/
def labels (desk : Desk) (arguments : Arguments) : List Label :=
  let site := desk.site
  let isAll := arguments.has "all"
  let isEvery := isAll || arguments.has "tags"
  (site.references desk.files
    (if isAll then referenceStart else tagStart)).filterMap fun name =>
      let isNoted := match (site.reference? desk.files name).bind
          desk.world.archive.object? with
        | some (.tag _) => true
        | _ => false
      let short := if name.startsWith tagStart then without tagStart name
        else shortName (without "refs/remotes/" name)
      if (!isNoted && !isEvery) || !isWanted arguments short then none
      else
        (site.commitId? desk.world name).map fun id =>
          ⟨if isAll then without referenceStart name
            else without tagStart name, id, isNoted⟩

/- The best name of a commit: tags with a message come first. -/
def nameOf? (labels : List Label) (id : String) : Option Label :=
  let own := labels.filter (fun label => label.commit == id)
  let isTag (label : Label) : Bool := label.text.startsWith "tags/"
  ((own.find? Label.isNoted).orElse fun _ => own.find? isTag).orElse
    fun _ => own.head?

------------------------------------------------------------
-- Commits Near By
------------------------------------------------------------

/- The name nearest behind a commit, with the commits in between. -/
def nearest? (world : World) (labels : List Label) (id : String) :
    Option (Label × Nat) :=
  let all := Site.history world id
  let named := all.reverse.filterMap fun before =>
    (nameOf? labels before).map fun label =>
      let known := Site.history world before
      (label, (all.filter (fun x => !known.contains x)).length)
  named.foldl
    (fun (best? : Option (Label × Nat)) found =>
      match best? with
      | some best => if found.2 < best.2 then some found else some best
      | none => some found)
    none

/- The steps from a commit back to another one along first parents. -/
def stepsBack? (archive : Archive) : Nat → String → String → Option Nat
  | 0, _, _ => none
  | fuel + 1, later, id =>
    if later == id then some 0
    else
      (archive.commit? later).bind fun c =>
        c.parents.head?.bind fun next =>
          (stepsBack? archive fuel next id).map (· + 1)

/- The name of a commit that came before one with a name. -/
def behind? (world : World) (labels : List Label) (id : String) :
    Option String :=
  let found := labels.filterMap fun label =>
    (stepsBack? world.archive (world.archive.objects.length + 1)
      label.commit id).map (label, ·)
  (found.foldl
    (fun (best? : Option (Label × Nat)) found =>
      match best? with
      | some best => if found.2 < best.2 then some found else some best
      | none => some found)
    none).map fun (label, steps) =>
      if steps != 0 then label.text ++ "~" ++ toString steps
      else if label.isNoted then label.text ++ "^0"
      else label.text

------------------------------------------------------------
-- The Command
------------------------------------------------------------

/- The options of the command. -/
def rules : List String :=
  [ "contains", "debug", "all", "tags", "long", "first-parent", "abbrev?",
    "exact-match", "candidates=", "match=", "exclude=", "always",
    "dirty?", "broken?" ]

/- What is added where the work tree has changes. -/
def markFor (arguments : Arguments) (desk : Desk) : String :=
  match arguments.last? "dirty" with
  | none => ""
  | some given =>
    if !given.isNegated && Differences.hasChanges desk desk.lens then
      given.value?.getD "-dirty"
    else ""

/- The text for a commit, if there is one. -/
def textFor? (arguments : Arguments) (desk : Desk) (id : String) :
    Option String :=
  let length := ((arguments.value? "abbrev").bind String.toNat?).getD 7
  let abbreviated :=
    String.ofList (id.toList.take (if length == 0 then 40 else length))
  let labels := labels desk arguments
  let full (label : Label) (count : Nat) : String :=
    label.text ++ "-" ++ toString count ++ "-g" ++ abbreviated
  if arguments.has "contains" then
    match behind? desk.world
        (if arguments.has "all" then labels else
          (Describing.labels desk { arguments with
            options := ⟨"tags", false, none⟩ :: arguments.options })) id with
    | some text => some text
    | none => if arguments.has "always" then some abbreviated else none
  else
    match nameOf? labels id, nearest? desk.world labels id with
    | some label, _ =>
      some (if arguments.has "long" then full label 0 else label.text)
    | none, some (label, count) =>
      if arguments.has "exact-match"
          || arguments.value? "candidates" == some "0" then
        if arguments.has "always" then some abbreviated else none
      else if length == 0 then some label.text
      else some (full label count)
    | none, none =>
      if arguments.has "always" then some abbreviated else none

/- Name commits by references. -/
def describe (args : List String) : Job Int := do
  let arguments ← Job.attempt (Arguments.ofTexts rules args)
  let desk ← get
  let words := arguments.all
  if arguments.has "long" && arguments.value? "abbrev" == some "0" then
    Job.fatal "options '--long' and '--abbrev=0' cannot be used together"
  if arguments.has "dirty" && !words.isEmpty then
    Job.fatal ("option '--dirty' and commit-ishes cannot be used together")
  for word in (if words.isEmpty then [headName] else words) do
    match desk.site.commitId? desk.world word with
    | none => Job.fatal ("Not a valid object name " ++ word)
    | some id =>
      match textFor? arguments desk id with
      | some text => Job.say (text ++ markFor arguments desk)
      | none => Job.fatal "No names found, cannot describe anything."
  return 0

end Describing

end Versions

end Sandbox

end TreeLint
