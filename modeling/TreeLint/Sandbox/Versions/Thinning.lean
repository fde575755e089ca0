import TreeLint.Sandbox.Versions.Naming
import TreeLint.Sandbox.Versions.Staging

/-
  Choosing the files that are wanted in the work tree.

  Key definitions include:
    * `Thinning.choose`
    * `Thinning.run`

  The rules are written down, the settings say that they hold,
  and then the index and the work tree follow them.  Files
  that were changed stay where they are.
-/

------------------------------------------------------------
-- Settings
------------------------------------------------------------

namespace TreeLint

namespace Sandbox

namespace Versions

namespace Thinning

/- Write a setting that only holds for this work tree. -/
def setOwn (front key value : String) : Job Unit := do
  let admin := (← get).site.admin
  Job.changeFiles fun t =>
    let file := admin ++ ["config.worktree"]
    let text := match t.node? file with
      | some (.file content _) => RawByte.decode content
      | _ => ""
    t.put file (textFile
      (Inscribing.write text ⟨front, none, key⟩ value))

/- Let every work tree have settings of its own. -/
def splitSettings : Job Unit := do
  let desk ← get
  if !desk.site.flag "extensions.worktreeconfig" false then
    Naming.changeSettings fun text =>
      Inscribing.write text ⟨"extensions", none, "worktreeConfig"⟩ "true"

/- A truth value as a setting has it. -/
def word (b : Bool) : String := if b then "true" else "false"

/- Write down whether rules hold, and of which kind they are. -/
def setModes (isOn isCone : Bool) : Job Unit := do
  splitSettings
  setOwn "core" "sparseCheckout" (word isOn)
  setOwn "core" "sparseCheckoutCone" (word isCone)

------------------------------------------------------------
-- Following Rules
------------------------------------------------------------

/- Let the index and the work tree follow the rules of a text. -/
def follow (text : String) : Job Unit := do
  let desk ← get
  if (desk.files.node? desk.site.indexFile).isSome then
    let rules := Sparsity.Rules.ofText desk.site text
    Job.checkLock desk.site.indexFile
    set (Sparsity.settle rules desk.lens (fun _ => true) desk)
    Job.saveIndex

/- Write the rules of a text down and follow them. -/
def choose (text : String) : Job Unit := do
  follow text
  let site := (← get).site
  Job.changeFiles fun t =>
    Site.putDeep t (Sparsity.fileOf site) (textFile text)

/- What the options say about the kind of rules. -/
structure Kind where
  isCone : Bool
  /- The settings have to be written. -/
  isNew : Bool

/- The kind of rules that is asked for. -/
def kindOf (arguments : Arguments) : Job Kind := do
  let site := (← get).site
  let asked? :=
    if arguments.has "cone" then some true
    else if arguments.hasNo "cone" then some false
    else none
  let isOn := Sparsity.isOn site
  let usual := if isOn then site.flag "core.sparsecheckoutcone" false
    else true
  return ⟨asked?.getD usual, asked?.isSome || !isOn⟩

/- Write down what the options say about the kind of rules. -/
def setKind (arguments : Arguments) (kind : Kind) : Job Unit := do
  if kind.isNew then
    setModes true kind.isCone
  if arguments.has "sparse-index" || arguments.hasNo "sparse-index" then
    splitSettings
    setOwn "index" "sparse" (word (arguments.has "sparse-index"))

/- The words that are given, one a line of the input if that is asked. -/
def givenWords (arguments : Arguments) : Job (List String) := do
  if arguments.has "stdin" then
    let text := RawByte.decode (← get).site.call.stdin
    return (Text.splitAt '\n' text).filter (fun line => !line.isEmpty)
  else
    return arguments.all

/- Check that the words can be directories, or rules. -/
def checkWords (kind : Kind) (words : List String) : Job Unit := do
  let desk ← get
  if !kind.isCone then
    if !desk.site.inner.isEmpty then
      Job.fatal "please run from the toplevel directory in non-cone mode"
  else
    for word in words do
      if word.startsWith "/" then
        Job.fatal "specify directories rather than patterns (no leading slash)"
      if word.startsWith "!" then
        Job.fatal ("specify directories rather than patterns.  If your "
          ++ "directory starts with a '!', pass --skip-checks")
      if word.toList.any (fun c => ['*', '?', '[', ']'].contains c) then
        Job.fatal ("specify directories rather than patterns.  If your "
          ++ "directory really has any of '*?[]\\' in it, pass --skip-checks")
    for word in words do
      if (desk.index.merged? word).isSome then
        Job.fatal ("'" ++ word ++ "' is not a directory; to treat it as a "
          ++ "directory anyway, rerun with --skip-checks")

------------------------------------------------------------
-- The Command
------------------------------------------------------------

/- The options of the parts of the command. -/
def rules : List String :=
  ["cone", "sparse-index", "skip-checks", "stdin", "end-of-options"]

/- The text that wants the files at the top alone. -/
def topOnly : String := "/*\n!/*/\n"

/- The rules that words stand for, behind those of a text. -/
def textFor (site : Site) (kind : Kind) (before : String)
    (words : List String) : String :=
  if kind.isCone then
    let inner := Text.joinWith "/" site.inner
    let placed (word : String) : Location :=
      Sparsity.Cone.ofWord
        (if inner.isEmpty then word else inner ++ "/" ++ word)
    Sparsity.Cone.toText (Sparsity.Cone.ofText before ++ words.map placed)
  else
    before ++ String.join (words.map (· ++ "\n"))

/- Want what the words say, besides what the rules want if asked. -/
def want (adds : Bool) (args : List String) : Job Int := do
  let arguments ← Job.attempt (Arguments.ofTexts rules args)
  let desk ← get
  let site := desk.site
  if adds && !Sparsity.isOn site then
    Job.fatal "no sparse-checkout to add to"
  let kind ← kindOf arguments
  setKind arguments kind
  let words ← givenWords arguments
  if !arguments.has "skip-checks" && !arguments.has "stdin" then
    checkWords kind words
  let text? := Sparsity.text? site desk.files
  if adds && text?.isNone then
    Job.fatal "unable to load existing sparse-checkout patterns"
  let before := if adds then text?.getD "" else ""
  if !kind.isCone && !adds && words.isEmpty && !arguments.has "stdin" then
    choose topOnly
  else
    choose (textFor site kind before words)
  return 0

/- Let rules hold, new ones if there are none. -/
def start (args : List String) : Job Int := do
  let arguments ← Job.attempt (Arguments.ofTexts rules args)
  let desk ← get
  setKind arguments (← kindOf arguments)
  match Sparsity.text? desk.site desk.files with
  | some text => follow text
  | none => choose topOnly
  return 0

/- Follow the rules again. -/
def again (args : List String) : Job Int := do
  let arguments ← Job.attempt (Arguments.ofTexts rules args)
  let desk ← get
  if !Sparsity.isOn desk.site then
    Job.fatal "must be in a sparse-checkout to reapply sparsity patterns"
  setKind arguments (← kindOf arguments)
  match Sparsity.text? desk.site desk.files with
  | some text =>
    follow text
    return 0
  | none => return 1

/- Want all files. -/
def stop : Job Int := do
  follow "/*\n"
  setModes false false
  setOwn "index" "sparse" "false"
  return 0

/- Print the rules, or the directories that are wanted. -/
def list : Job Int := do
  let desk ← get
  if !Sparsity.isOn desk.site then
    Job.fatal "this worktree is not sparse"
  match Sparsity.text? desk.site desk.files with
  | none =>
    Job.complain ("warning: this worktree is not sparse "
      ++ "(sparse-checkout file may not exist)")
  | some text =>
    if desk.site.flag "core.sparsecheckoutcone" false then
      for loc in Sparsity.Cone.outermost (Sparsity.Cone.ofText text) do
        Job.say (Text.joinWith "/" loc)
    else
      Job.print (RawByte.encode text)
  return 0

/- Tell which paths of the input the rules want. -/
def tell (args : List String) : Job Int := do
  let arguments ← Job.attempt (Arguments.ofTexts
    ["z", "cone", "rules-file="] args)
  let desk ← get
  let text? := match arguments.value? "rules-file" with
    | some p => (desk.files.read? desk.site.call.cwd p).map RawByte.decode
    | none => Sparsity.text? desk.site desk.files
  let mark := if arguments.has "z" then '\x00' else '\n'
  match text? with
  | none => Job.fatal "unable to load existing sparse-checkout patterns"
  | some text =>
    let rules := Sparsity.Rules.ofText desk.site text
    for p in Text.splitAt mark (RawByte.decode desk.site.call.stdin) do
      if !p.isEmpty && Sparsity.isWanted rules p then
        Job.print (RawByte.encode (p ++ String.singleton mark))
    return 0

/- Choose the files that are wanted in the work tree. -/
def run : List String → Job Int
  | "list" :: _ => list
  | "init" :: args => start args
  | "set" :: args => want false args
  | "add" :: args => want true args
  | "reapply" :: args => again args
  | "disable" :: _ => stop
  | "check-rules" :: args => tell args
  | [] => throw (.usage "error: need a subcommand")
  | word :: _ =>
    throw (.usage ("error: unknown subcommand: \x60" ++ word ++ "'"))

end Thinning

end Versions

end Sandbox

end TreeLint
