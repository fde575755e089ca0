import TreeLint.Sandbox.Versions.Halving
import TreeLint.Sandbox.Versions.Histories

/-
  Searching a history for the commit that changed something.

  Key definitions include:
    * `Bisecting.Verdict`
    * `Bisecting.next`
    * `Bisecting.mark`
    * `Bisecting.run`

  One says of some commits that they are good and of one that
  it is bad.  Then the commit in the middle is taken into the
  work tree to be looked at, again and again, until there is
  only one that can be the first bad one.
-/

------------------------------------------------------------
-- State
------------------------------------------------------------

namespace TreeLint

namespace Sandbox

namespace Versions

namespace Bisecting

/- The words for what comes after the change and before it. -/
structure Terms where
  bad : String
  good : String
deriving Repr

/- The words that are used if nobody asks for others. -/
def usual : Terms := ⟨"bad", "good"⟩

/- The files in which the state of a search is kept. -/
def stateFiles : List String :=
  [ "BISECT_HEAD", "BISECT_EXPECTED_REV", "BISECT_ANCESTORS_OK",
    "BISECT_LOG", "BISECT_NAMES", "BISECT_RUN", "BISECT_TERMS",
    "BISECT_FIRST_PARENT", "BISECT_START" ]

/- The beginning of the names of what is known. -/
def markStart : String := "refs/bisect/"

/- A text in a file of the state that is not empty. -/
def stateText? (name : String) : Job (Option String) := do
  match ← Job.adminText? name with
  | some "" => return none
  | other => return other

/- The first line of a text. -/
def lineOf (text : String) : String :=
  Committing.firstLine text

/- The words that this search uses. -/
def termsNow : Job Terms := do
  match ← stateText? "BISECT_TERMS" with
  | none => return usual
  | some text =>
    match Text.splitAt '\n' text with
    | bad :: good :: _ => return ⟨bad, good⟩
    | _ => return usual

/- Keep the words. -/
def keepTerms (terms : Terms) : Job Unit :=
  Job.writeAdmin "BISECT_TERMS" (terms.bad ++ "\n" ++ terms.good ++ "\n")

/- Forget all about a search. -/
def forget : Job Unit := do
  Job.removeAdmin "refs/bisect"
  for name in stateFiles do
    Job.removeAdmin name

/- Add lines to the log of a search. -/
def tell (text : String) : Job Unit := do
  let known := (← Job.adminText? "BISECT_LOG").getD ""
  Job.writeAdmin "BISECT_LOG" (known ++ text ++ "\n")

/- What is known about the commits. -/
structure Marks where
  bad? : Option String
  good : List String
  skipped : List String
deriving Repr

/- Read what is known. -/
def marksOf (desk : Desk) (terms : Terms) : Marks :=
  let site := desk.site
  let t := desk.files
  let under (word : String) : List String :=
    (site.references t (markStart ++ word ++ "-")).filterMap
      (site.reference? t)
  ⟨site.reference? t (markStart ++ terms.bad), under terms.good,
    under "skip"⟩

------------------------------------------------------------
-- Verdicts
------------------------------------------------------------

/- How a step of a search ends. -/
inductive Verdict where
  /- There is something to be tested, or to be told. -/
  | goesOn
  /- The first bad commit is known. -/
  | found
  /- What the good and the bad have in common has to be tested. -/
  | testsBase
  | failed
  | onlySkipped
  /- A commit that is bad comes before good ones. -/
  | isUpsideDown
  | untestable
deriving DecidableEq, Repr

/- The exit code for a verdict. -/
def Verdict.code : Verdict → Int
  | .goesOn => 0
  | .found => 0
  | .testsBase => 0
  | .failed => 1
  | .onlySkipped => 2
  | .isUpsideDown => 3
  | .untestable => 4

/- Give up, with what is to be told. -/
def refuse (text : String) : Job Verdict := do
  Job.complain ("error: " ++ text)
  return .failed

------------------------------------------------------------
-- The Commit To Test
------------------------------------------------------------

/- A commit with its first line, as it is shown. -/
def shown (desk : Desk) (id : String) : String :=
  let subject := match desk.world.archive.commit? id with
    | some c => Committing.subject c.message
    | none => ""
  "[" ++ id ++ "] " ++ subject

/- Take a commit into the work tree, or only its name. -/
def visit (id : String) : Job Verdict := do
  Job.writeAdmin "BISECT_EXPECTED_REV" (id ++ "\n")
  let code ← if (← Job.adminId? "BISECT_HEAD").isSome then do
      Job.writeAdmin "BISECT_HEAD" (id ++ "\n")
      pure 0
    else Nested.again ["checkout", "-q", id, "--"]
  if code != 0 then return .failed
  Job.say (shown (← get) id)
  return .goesOn

/- Where the good ones and the bad one have to be compared first. -/
def baseVerdict? (terms : Terms) (bad : String) (marks : Marks) :
    Job (Option Verdict) := do
  let desk ← get
  if marks.good.isEmpty
      || (← Job.adminText? "BISECT_ANCESTORS_OK").isSome then
    return none
  let known := Site.history desk.world bad
  let bases := if marks.good.all known.contains then []
    else (marks.good.flatMap (Site.mergeBases desk.world bad)).eraseDups
  let bases := bases.filter fun id =>
    !bases.any fun other =>
      other != id && Site.isAncestor desk.world id other
  let open? := bases.find? fun id =>
    id == bad || !(marks.good.contains id || marks.skipped.contains id)
  match open? with
  | none =>
    Job.writeAdmin "BISECT_ANCESTORS_OK" ""
    return none
  | some id =>
    if id == bad then
      if (← Job.adminId? "BISECT_EXPECTED_REV") == some bad then
        Job.complain ("The merge base " ++ bad ++ " is " ++ terms.bad ++ ".")
        return some .isUpsideDown
      Job.complain ("Some " ++ terms.good ++ " revs are not ancestors of the "
        ++ terms.bad ++ " rev.")
      return some .failed
    Job.say "Bisecting: a merge base must be tested"
    match ← visit id with
    | .goesOn => return some .testsBase
    | other => return some other

/- The commits in a row of first parents that are not known yet. -/
def firstParents (archive : Archive) (seen : List String) :
    Nat → String → List String
  | 0, _ => []
  | fuel + 1, id =>
    if seen.contains id then []
    else
      let parent? := (archive.commit? id).bind fun c => c.parents.head?
      id :: (match parent? with
        | some parent => firstParents archive seen fuel parent
        | none => [])

/- The commits among which the change is, the oldest first. -/
def candidates (desk : Desk) (specs : Pathspec) (isEvery isFirst : Bool)
    (bad : String) (marks : Marks) : List Halving.Candidate :=
  let world := desk.world
  let ids := if isFirst then
      let seen := marks.good.flatMap (Site.history world)
      (firstParents world.archive seen
        (world.archive.objects.length + 1) bad).reverse
    else Combining.between world [bad] marks.good
  ids.filterMap fun id =>
    (world.archive.commit? id).map fun c =>
      let parents := if isFirst then c.parents.take 1 else c.parents
      let changes (old : Option String) : Bool :=
        (Differences.between (Site.filesOf world old) c.files).any
          fun row => row.differs && specs.covers row.path
      let isCounted := isEvery || (if parents.isEmpty then changes none
        else parents.all fun parent => changes (some parent))
      ⟨id, parents.filter ids.contains, isCounted⟩

/- The paths that a search is limited to. -/
def limits : Job (List String) := do
  let text := (← Job.adminText? "BISECT_NAMES").getD ""
  return (Text.splitAt '\x00' text).filter fun word =>
    !word.isEmpty && word != "\n"

/- Tell which commit is the first bad one. -/
def announce (terms : Terms) (id : String) : Job Verdict := do
  let desk ← get
  Job.say (id ++ " is the first " ++ terms.bad ++ " commit")
  match desk.world.archive.commit? id with
  | some c => Job.say (Histories.plain id c)
  | none => pure ()
  tell ("# first " ++ terms.bad ++ " commit: " ++ shown desk id)
  return .found

/- Tell that only commits are left that could not be tested. -/
def announceSkipped (terms : Terms) (ids : List String)
    (bad? : Option String) : Job Verdict := do
  Job.say "There are only 'skip'ped commits left to test."
  Job.say ("The first " ++ terms.bad ++ " commit could be any of:")
  for id in ids ++ bad?.toList do
    Job.say id
  Job.say "We cannot bisect more!"
  return .onlySkipped

/- Go to the next commit that is to be tested. -/
def step (terms : Terms) (marks : Marks) (bad : String) : Job Verdict := do
  let desk ← get
  match ← baseVerdict? terms bad marks with
  | some verdict => return verdict
  | none =>
    let words ← limits
    let specs ← Job.attempt (Pathspec.parse desk.site desk.files words)
    let isFirst ← Combining.isPending "BISECT_FIRST_PARENT"
    let all := candidates desk specs words.isEmpty isFirst bad marks
    let count := (all.filter Halving.Candidate.isCounted).length
    let ids := if marks.skipped.isEmpty then
        (Halving.middle? all).toList.map Halving.Candidate.id
      else Halving.ranked all
    let (left, tried) := Halving.withoutSkipped marks.skipped ids
    let next? := if tried.isEmpty then left.head?
      else Halving.awayFrom? bad left
    match next? with
    | none =>
      if !tried.isEmpty then announceSkipped terms tried none
      else if count == 0 && !words.isEmpty then
        Job.complain ("No testable commit found.\n"
          ++ "Maybe you started with bad path arguments?")
        return .untestable
      else
        Job.say (bad ++ " was both " ++ terms.good ++ " and " ++ terms.bad)
        return .failed
    | some id =>
      if id == bad then
        if !tried.isEmpty then announceSkipped terms tried (some bad)
        else announce terms bad
      else
        let reached := match all.find? (fun c => c.id == id) with
          | some c => Halving.weight all c
          | none => 0
        Job.say ("Bisecting: " ++ toString (count - reached - 1)
          ++ " revisions left to test after this (roughly "
          ++ toString (Halving.steps count) ++ " steps)")
        visit id

------------------------------------------------------------
-- Answers
------------------------------------------------------------

/- Go on if enough is known, and otherwise tell what is missing. -/
def goOn (terms : Terms) : Job Verdict := do
  let marks := marksOf (← get) terms
  match marks.bad?, marks.good with
  | some bad, _ :: _ => step terms marks bad
  | bad?, good =>
    let status := match bad?, good with
      | none, [] => "waiting for both good and bad commits"
      | none, _ => "waiting for bad commit, "
          ++ toString good.length ++ " good commit(s) known"
      | some _, _ => "waiting for good commit(s), bad commit known"
    Job.say ("status: " ++ status)
    tell ("# status: " ++ status)
    return .goesOn

/- Go on although no good commit may be known. -/
def next (terms : Terms) : Job Verdict := do
  let marks := marksOf (← get) terms
  match marks.bad? with
  | some bad =>
    if marks.good.isEmpty then
      Job.complain ("warning: bisecting only with a " ++ terms.bad
        ++ " commit")
    step terms marks bad
  | none =>
    if (← stateText? "BISECT_START").isSome then
      refuse ("You need to give me at least one " ++ terms.bad ++ " and "
        ++ terms.good ++ " revision.")
    else refuse "You need to start by \"git bisect start\"."

/- Keep what is said about a commit. -/
def keepMark (terms : Terms) (word id : String) : Job Unit := do
  let name := markStart ++ (if word == terms.bad then word
    else word ++ "-" ++ id)
  let site := (← get).site
  Job.changeFiles fun t => site.writeTarget t name (.commit id)
  tell ("# " ++ word ++ ": " ++ shown (← get) id ++ "\ngit bisect " ++ word
    ++ " " ++ id)

/- The commits that words stand for, if all of them do. -/
def commitsOf? (words : List String) : Job (Option (List String)) := do
  let desk ← get
  return words.mapM (desk.site.commitId? desk.world)

/- Say something about some commits, or about the present one. -/
def mark (word : String) (words : List String) : Job Verdict := do
  if (← stateText? "BISECT_START").isNone then
    Job.complain "You need to start by \"git bisect start\""
    return .failed
  let terms ← termsNow
  let pairs := [("bad", "good"), ("new", "old")]
  let isOpen := (← stateText? "BISECT_TERMS").isNone
  let terms := if isOpen then
      match pairs.find? (fun (a, b) => a == word || b == word) with
      | some (bad, good) => ⟨bad, good⟩
      | none => terms
    else terms
  if isOpen && pairs.any (fun (a, b) => a == word || b == word) then
    keepTerms terms
  if !([terms.bad, terms.good, "skip"].contains word) then
    return ← refuse ("Invalid command: you're currently in a " ++ terms.bad
      ++ "/" ++ terms.good ++ " bisect")
  if word == terms.bad && 1 < words.length then
    return ← refuse ("'git bisect " ++ word ++ "' can take only one argument.")
  let isBare := (← Job.adminId? "BISECT_HEAD").isSome
  let words := if !words.isEmpty then words
    else if isBare then ["BISECT_HEAD"]
    else [headName]
  match ← commitsOf? words with
  | none => refuse ("Bad rev input: " ++ Text.joinWith " " words)
  | some ids =>
    let expected? ← Job.adminId? "BISECT_EXPECTED_REV"
    for id in ids do
      keepMark terms word id
    if expected?.any (fun expected => ids.any (· != expected)) then
      Job.removeAdmin "BISECT_ANCESTORS_OK"
      Job.removeAdmin "BISECT_EXPECTED_REV"
    goOn terms

/- Say that commits cannot be tested. -/
def skip (words : List String) : Job Verdict := do
  let desk ← get
  let lists ← words.mapM fun word => do
    if 1 < (word.splitOn "..").length then
      match Combining.range? desk word with
      | some ids => return ids
      | none => Job.fatal ("bad revision '" ++ word ++ "'")
    return [word]
  mark "skip" lists.flatten

------------------------------------------------------------
-- Beginning And End
------------------------------------------------------------

/- How a search begins. -/
structure Opening where
  terms : Terms
  hasTerms : Bool
  isBare : Bool
  isFirst : Bool
  ids : List String
  paths : List String

/- Read what stands behind the command. -/
def openingOf (desk : Desk) (isSplit : Bool) (opening : Opening) :
    List String → Attempt Opening
  | [] => .ok opening
  | "--" :: paths => .ok { opening with paths }
  | "--no-checkout" :: rest =>
    openingOf desk isSplit { opening with isBare := true } rest
  | "--first-parent" :: rest =>
    openingOf desk isSplit { opening with isFirst := true } rest
  | word :: rest =>
    let terms := opening.terms
    let (name, value?) := match word.splitOn "=" with
      | name :: first :: more =>
        (name, some (Text.joinWith "=" (first :: more)))
      | _ => (word, none)
    let isGood := name == "--term-good" || name == "--term-old"
    let isBad := name == "--term-bad" || name == "--term-new"
    let withTerm (value : String) : Opening :=
      { opening with
        hasTerms := true
        terms := if isGood then { terms with good := value }
          else { terms with bad := value } }
    if isGood || isBad then
      match value?, rest with
      | some value, rest => openingOf desk isSplit (withTerm value) rest
      | none, value :: rest => openingOf desk isSplit (withTerm value) rest
      | none, [] => .error ⟨1, "error: '' is not a valid term"⟩
    else if word.startsWith "--" then
      .error ⟨1, "error: unrecognized option: '" ++ word ++ "'"⟩
    else
      match desk.site.commitId? desk.world word with
      | some id =>
        openingOf desk isSplit { opening with ids := opening.ids ++ [id] }
          rest
      | none =>
        if isSplit then
          .error (.fatal ("'" ++ word
            ++ "' does not appear to be a valid revision"))
        else .ok { opening with paths := word :: rest }

/- The words that have another meaning. -/
def takenWords : List String :=
  [ "help", "start", "skip", "next", "reset", "visualize", "view", "replay",
    "log", "run", "terms" ]

/- Check that words can be used for what they are to mean. -/
def checkTerms (terms : Terms) : Attempt Unit := do
  for word in [terms.bad, terms.good] do
    if !isGoodName (markStart ++ word) then
      throw ⟨1, "error: '" ++ word ++ "' is not a valid term"⟩
    if takenWords.contains word then
      throw ⟨1, "error: can't use the builtin command '" ++ word
        ++ "' as a term"⟩
  if ["bad", "new"].contains terms.good
      || ["good", "old"].contains terms.bad then
    throw ⟨1, "error: can't change the meaning of the term"⟩
  if terms.bad == terms.good then
    throw ⟨1, "error: please use two different terms"⟩

/- Where the work tree is to be in the end. -/
def startingPoint : Job String := do
  match ← stateText? "BISECT_START" with
  | some text =>
    let name := lineOf text
    if (← Nested.again ["checkout", name, "--"]) != 0 then
      Job.fail 1 ("error: checking out '" ++ name ++ "' failed. Try "
        ++ "'git bisect start <valid-branch>'.")
    return name
  | none =>
    let desk ← get
    match desk.site.head? desk.files, desk.site.headName? desk.files with
    | none, _ => Job.fail 1 "error: bad HEAD - I need a HEAD"
    | some id, some name =>
      return if name.startsWith branchStart then without branchStart name
        else id
    | some id, none => return id

/- Begin a search. -/
def start (args : List String) : Job Verdict := do
  let desk ← get
  let opening ← Job.attempt
    (openingOf desk (args.contains "--")
      ⟨usual, false, false, false, [], []⟩ args)
  if opening.hasTerms then Job.attempt (checkTerms opening.terms)
  let name ← startingPoint
  forget
  Job.writeAdmin "BISECT_START" (name ++ "\n")
  if opening.isFirst then Job.writeAdmin "BISECT_FIRST_PARENT" "\n"
  if opening.isBare then
    match desk.site.commitId? desk.world name with
    | some id => Job.writeAdmin "BISECT_HEAD" (id ++ "\n")
    | none => Job.fail 1 ("error: invalid ref: '" ++ name ++ "'")
  Job.writeAdmin "BISECT_NAMES"
    (String.join (opening.paths.map (· ++ "\x00")) ++ "\n")
  if opening.hasTerms || !opening.ids.isEmpty then
    keepTerms opening.terms
  for (id, n) in opening.ids.zipIdx do
    keepMark opening.terms
      (if n == 0 then opening.terms.bad else opening.terms.good) id
  tell ("git bisect start " ++ Text.joinWith " "
    (args.map fun arg => "'" ++ arg ++ "'"))
  let verdict ← goOn opening.terms
  if verdict.code != 0 then forget
  return verdict

/- End a search. -/
def reset (word? : Option String) : Job Verdict := do
  let desk ← get
  match word?, ← stateText? "BISECT_START" with
  | none, none =>
    Job.say "We are not bisecting."
    return .goesOn
  | some word, _ =>
    if (desk.site.commitId? desk.world word).isNone then
      return ← refuse ("'" ++ word ++ "' is not a valid commit")
    leave word
  | none, some text => leave (lineOf text)
where
  /- Go somewhere and forget the search. -/
  leave (name : String) : Job Verdict := do
    if (← Job.adminId? "BISECT_HEAD").isNone then
      if (← Nested.again ["checkout", name, "--"]) != 0 then
        return ← refuse ("could not check out original HEAD '" ++ name
          ++ "'. Try 'git bisect reset <commit>'.")
    forget
    return .goesOn

------------------------------------------------------------
-- Programs That Answer
------------------------------------------------------------

/- Let a program answer until the search ends. -/
def runAlong (args : List String) : Nat → Job Int
  | 0 => return 1
  | fuel + 1 => do
    Job.say ("running " ++ Text.joinWith " "
      (args.map fun arg => "'" ++ arg ++ "'"))
    let code ← Committing.launch "sh" (["-c", "\"$@\"", "sh"] ++ args) [] ""
    Nested.reread
    let code := code.getD 127
    if code < 0 || 126 ≤ code then
      Job.complain ("error: bisect run failed: exit code " ++ toString code
        ++ " is < 0 or >= 128")
      return if 128 ≤ code then (256 - code) % 256 else 1
    let terms ← termsNow
    let word := if code == 125 then "skip"
      else if code == 0 then terms.good
      else terms.bad
    match ← mark word [] with
    | .goesOn => runAlong args fuel
    | .found =>
      Job.say "bisect found first bad commit"
      return 0
    | .testsBase =>
      Job.say "bisect run success"
      return 0
    | .onlySkipped =>
      Job.complain "error: bisect run cannot continue any more"
      return Verdict.onlySkipped.code
    | other =>
      Job.complain ("error: bisect run failed: 'git bisect " ++ word
        ++ "' exited with an error")
      return other.code

/- Let a program answer. -/
def runProgram (args : List String) : Job Int := do
  let terms ← termsNow
  let desk ← get
  let marks := marksOf desk terms
  if marks.bad?.isNone || marks.good.isEmpty then return 1
  if args.isEmpty then
    Job.complain "error: bisect run failed: no command provided."
    return 1
  runAlong args (desk.world.archive.objects.length + 2)

/- Carry out the lines of a log. -/
def replayLines : List String → Job Verdict
  | [] => do goOn (← termsNow)
  | line :: rest => do
    match (Text.splitAt ' ' line).filter (fun word => !word.isEmpty) with
    | "git" :: "bisect" :: "start" :: args =>
      let args := args.map fun arg => String.ofList
        ((arg.toList.dropWhile (· == '\'')).reverse.dropWhile
          (· == '\'')).reverse
      let verdict ← start args
      if verdict.code != 0 then return .failed
      replayLines rest
    | ["git", "bisect", word, name] =>
      let terms ← termsNow
      let desk ← get
      match desk.site.commitId? desk.world name with
      | some id =>
        keepMark terms word id
        replayLines rest
      | none => refuse ("Bad rev input: " ++ name)
    | _ => replayLines rest

/- Carry out a log that was kept in a file. -/
def replay (p : Path) : Job Verdict := do
  let desk ← get
  match desk.files.read? desk.site.call.cwd p with
  | none => refuse ("cannot read file '" ++ p ++ "' for replaying")
  | some [] => refuse ("cannot read file '" ++ p ++ "' for replaying")
  | some content =>
    discard <| reset none
    replayLines (Text.splitAt '\n' (RawByte.decode content))

------------------------------------------------------------
-- The Command
------------------------------------------------------------

/- The complaint about a call. -/
def misused {α : Type} (text : String) : Job α :=
  throw (.usage (text ++ "\n\nusage: git bisect start [--term-(bad|new)="
    ++ "<term-new> --term-(good|old)=<term-old>] [<bad> [<good>...]]"))

/- Search a history. -/
def run (args : List String) : Job Int := do
  match args with
  | [] => misused "need a command"
  | "start" :: rest => return (← start rest).code
  | "reset" :: rest =>
    if 1 < rest.length then
      return (← refuse ("'git bisect reset' requires either no argument or "
        ++ "a commit")).code
    return (← reset rest.head?).code
  | "next" :: rest =>
    if !rest.isEmpty then
      return (← refuse "'git bisect next' requires 0 arguments").code
    return (← next (← termsNow)).code
  | "skip" :: rest => return (← skip rest).code
  | ["log"] =>
    match ← stateText? "BISECT_LOG" with
    | some text =>
      Job.print (RawByte.encode text)
      return 0
    | none => Job.fail 1 "error: We are not bisecting."
  | ["replay", p] => return (← replay p).code
  | "terms" :: rest =>
    if (← stateText? "BISECT_TERMS").isNone then
      Job.fail 1 "error: no terms defined"
    let terms ← termsNow
    match rest with
    | [] => Job.say ("Your current terms are " ++ terms.good
        ++ " for the old state\nand " ++ terms.bad ++ " for the new state.")
    | word :: _ =>
      if ["--term-good", "--term-old"].contains word then Job.say terms.good
      else if ["--term-bad", "--term-new"].contains word then
        Job.say terms.bad
      else Job.fail 1 "error: invalid argument for 'git bisect terms'."
    return 0
  | "run" :: rest => runProgram rest
  | word :: rest =>
    if ["visualize", "view"].contains word then
      let terms ← termsNow
      let marks := marksOf (← get) terms
      return if marks.bad?.isNone || marks.good.isEmpty then 1 else 0
    if word == "log" || word == "replay" then
      return (← refuse ("'git bisect " ++ word ++ "' was misused")).code
    let terms ← termsNow
    let isKnown := [terms.bad, terms.good].contains word
      || ((← stateText? "BISECT_TERMS").isNone
        && ["bad", "good", "new", "old"].contains word)
    if !isKnown && (← stateText? "BISECT_TERMS").isSome then
      misused ("unknown command: '" ++ word ++ "'")
    return (← mark word rest).code

end Bisecting

end Versions

end Sandbox

end TreeLint
