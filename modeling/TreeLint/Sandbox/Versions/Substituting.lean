import TreeLint.Sandbox.Versions.Naming

/-
  Letting something be found in place of something else.

  Key definitions include:
    * `Substituting.replace`
    * `Substituting.run`

  A reference under the name of an object says which other
  object is found in its place.  Both are of one kind, unless
  that is waived.
-/

------------------------------------------------------------
-- References
------------------------------------------------------------

namespace TreeLint

namespace Sandbox

namespace Versions

namespace Substituting

/- The exit code where something was refused. -/
def refused : Int := 255

/- The kind of something that is kept. -/
def kindOf : Kept → String
  | .commit _ => "commit"
  | .tree _ => "tree"
  | .blob _ => "blob"
  | .tag _ => "tag"

/- What a word names, with what is kept under the name. -/
def resolve (word : String) : Job (String × Kept) := do
  let desk ← get
  match desk.site.object? desk.world word with
  | some found => return found
  | none =>
    Job.fail refused
      ("error: failed to resolve '" ++ word ++ "' as a valid ref")

/- Write down what is found in place of something. -/
def write (isForced : Bool) (id other : String) : Job Unit := do
  let desk ← get
  let name := Site.substituteStart ++ id
  if !isForced && (desk.site.reference? desk.files name).isSome then
    Job.fail refused ("error: replace ref '" ++ name ++ "' already exists")
  Job.changeFiles fun t => desk.site.setReference t name other ""

/- Let one thing be found in place of another one. -/
def replace (isForced : Bool) (word other : String) : Job Int := do
  let (id, kept) ← resolve word
  let (otherId, otherKept) ← resolve other
  if !isForced && kindOf kept != kindOf otherKept then
    Job.fail refused "error: Objects must be of the same type."
  write isForced id otherId
  return 0

/- Let a commit have other parents. -/
def graft (isForced : Bool) (word : String) (parents : List String) :
    Job Int := do
  let desk ← get
  match desk.site.commitId? desk.world word with
  | none =>
    Job.fail refused ("error: not a valid object name: '" ++ word ++ "'")
  | some id =>
    let ids ← parents.mapM fun parent =>
      match desk.site.commitId? desk.world parent with
      | some id => pure id
      | none =>
        Job.fail refused
          ("error: not a valid object name: '" ++ parent ++ "'")
    match desk.world.archive.commit? id with
    | none => Job.fail refused ("error: could not parse " ++ word)
    | some c =>
      if c.parents == ids then
        Job.fail refused ("error: new commit is the same as the old one: '"
          ++ id ++ "'")
      let other ← Job.makeCommit ids c.files c.message
      write isForced id other
      return 0

/- Take away what is found in place of some things. -/
def drop (words : List String) : Job Int := do
  let mut code : Int := 0
  for word in words do
    let desk ← get
    match desk.site.revision? desk.world word with
    | none =>
      Job.complain ("error: failed to resolve '" ++ word
        ++ "' as a valid ref")
      code := 1
    | some id =>
      let name := Site.substituteStart ++ id
      if (desk.site.reference? desk.files name).isSome then
        Job.changeFiles fun t => desk.site.dropReference t name
        Job.say ("Deleted replace ref '" ++ id ++ "'")
      else
        Job.complain ("error: replace ref '" ++ id ++ "' not found")
        code := 1
  return code

/- Print the names of what is replaced. -/
def list (pattern? : Option String) : Job Int := do
  let desk ← get
  for name in desk.site.references desk.files Site.substituteStart do
    let id := without Site.substituteStart name
    if pattern?.all (fun pattern =>
        Wildcard.fitsBehindStart ⟨false, false⟩ pattern id) then
      Job.say id
  return 0

/- Let something be found in place of something else. -/
def run (args : List String) : Job Int := do
  let arguments ← Job.attempt (Arguments.ofTexts
    [ "l|list", "d|delete", "e|edit", "g|graft", "convert-graft-file",
      "f|force", "raw", "format=" ] args)
  let usage : Job Int :=
    throw (.usage "usage: git replace [-f] <object> <replacement>")
  let isForced := arguments.has "force"
  let words := arguments.all
  if arguments.has "list" || (words.isEmpty && !arguments.has "delete") then
    if 1 < words.length then usage
    else list words.head?
  else if arguments.has "delete" then
    if words.isEmpty then usage else drop words
  else if arguments.has "graft" then
    match words with
    | word :: parents => graft isForced word parents
    | [] => usage
  else if arguments.has "edit" then
    return refused
  else
    match words with
    | [word, other] => replace isForced word other
    | _ => usage

end Substituting

end Versions

end Sandbox

end TreeLint
