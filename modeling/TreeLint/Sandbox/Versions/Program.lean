import TreeLint.Sandbox.Versions.Applying
import TreeLint.Sandbox.Versions.Describing
import TreeLint.Sandbox.Versions.Bisecting
import TreeLint.Sandbox.Versions.Configuring
import TreeLint.Sandbox.Versions.Elsewhere
import TreeLint.Sandbox.Versions.Histories
import TreeLint.Sandbox.Versions.Nesting
import TreeLint.Sandbox.Versions.Shelving
import TreeLint.Sandbox.Versions.Substituting
import TreeLint.Sandbox.Versions.Thinning
import TreeLint.Sandbox.Versions.Updating

/-
  The program of version control.

  Key definitions include:
    * `Command`
    * `commands`
    * `run`

  Options in front of a command say where it works and which
  settings hold.  Then the repository is looked for, its
  settings are checked, and the command is carried out.
-/

------------------------------------------------------------
-- Commands
------------------------------------------------------------

namespace TreeLint

namespace Sandbox

namespace Versions

/- What a command needs to work. -/
inductive Need where
  | repository
  | workTree
deriving DecidableEq

/- A command that works in a repository. -/
structure Command where
  name : String
  need : Need
  job : List String → Job Int

namespace Command

/- A command that needs a work tree. -/
def inTree (name : String) (job : List String → Job Int) : Command :=
  ⟨name, .workTree, job⟩

/- A command that only needs a repository. -/
def inRepository (name : String) (job : List String → Job Int) : Command :=
  ⟨name, .repository, job⟩

/- A command that does nothing that can be seen. -/
def idle (name : String) : Command :=
  ⟨name, .repository, fun _ => pure 0⟩

end Command

/- Compare a commit with the work tree, or with the index. -/
def diffIndex (args : List String) : Job Int := do
  let arguments ← Job.attempt (Showing.argumentsOf Questions.diffRules args)
  if arguments.words.isEmpty then
    throw (.usage "usage: git diff-index <tree-ish>")
  Questions.compare true (args.filter (fun a => a != "-m"))

/- The commands that work in a repository. -/
def commands : List Command :=
  [ .inTree "add" Staging.add,
    .inTree "stage" Staging.add,
    .inTree "commit" Combining.commit,
    .inTree "rm" Staging.remove,
    .inTree "mv" Staging.move,
    .inTree "checkout" Navigating.checkout,
    .inTree "switch" Navigating.switch,
    .inTree "restore" Navigating.restore,
    .inTree "reset" Navigating.reset,
    .inTree "stash" Shelving.stash,
    .inTree "clean" Shelving.clean,
    .inTree "merge" Combining.merge,
    .inTree "revert" (Combining.pick true),
    .inTree "cherry-pick" (Combining.pick false),
    .inTree "rebase" Combining.rebase,
    .inTree "pull" Elsewhere.pull,
    .inRepository "apply" (Applying.run false),
    .inTree "sparse-checkout" Thinning.run,
    .inTree "submodule" Nesting.run,
    .inTree "update-index" Updating.update,
    .inTree "checkout-index" Histories.checkoutIndex,
    .inTree "check-ignore" Questions.checkIgnored,
    .inTree "status" Questions.status,
    ⟨"diff", .repository, Questions.diff⟩,
    ⟨"diff-index", .repository, diffIndex⟩,
    ⟨"diff-files", .workTree, Questions.compare true⟩,
    .inRepository "diff-tree" Histories.diffTree,
    .inRepository "ls-files" Questions.listFiles,
    .inRepository "rev-parse" Questions.revisions,
    .inRepository "branch" Naming.branch,
    .inRepository "tag" Naming.tag,
    .inRepository "update-ref" Naming.updateReference,
    .inRepository "symbolic-ref" Naming.symbolicReference,
    .inRepository "log" Histories.log,
    .inRepository "whatchanged" Histories.log,
    .inRepository "show" Histories.show',
    .inRepository "rev-list" Histories.revisionList,
    .inRepository "show-ref" Histories.listReferences,
    .inRepository "for-each-ref" Histories.eachReference,
    .inRepository "merge-base" Histories.mergeBase,
    .inRepository "cat-file" Histories.object,
    .inRepository "ls-tree" Histories.listTree,
    .inRepository "hash-object" Histories.digest,
    .inRepository "write-tree" (fun _ => Histories.writeTree),
    .inRepository "read-tree" Histories.readTree,
    .inRepository "commit-tree" Histories.commitTree,
    .inRepository "reflog" Histories.references,
    .inRepository "replace" Substituting.run,
    .inRepository "describe" Describing.describe,
    .inRepository "bisect" Bisecting.run,
    .inRepository "worktree" Elsewhere.trees,
    .inRepository "remote" Elsewhere.remotes,
    .inRepository "fetch" Elsewhere.fetch,
    .inRepository "push" Elsewhere.push,
    .idle "gc", .idle "prune", .idle "repack", .idle "fsck",
    .idle "maintenance", .idle "count-objects", .idle "pack-refs",
    .idle "update-server-info", .idle "notes", .idle "shortlog",
    .idle "show-branch", .idle "cherry", .idle "name-rev",
    .idle "commit-graph", .idle "multi-pack-index", .idle "rerere",
    .idle "blame", .idle "annotate", .idle "archive" ]

------------------------------------------------------------
-- Complaints
------------------------------------------------------------

/- The complaint of a command that needs a work tree. -/
def noWorkTree : Failure :=
  .fatal "this operation must be run in a work tree"

/- The complaint of a command that needs a repository. -/
def noRepository : Failure :=
  .fatal ("not a git repository (or any of the parent directories): "
    ++ Repository.adminName)

/- The complaint of a comparison outside of a repository. -/
def notCompared : Failure :=
  .usage ("warning: Not a git repository. Use --no-index to compare two "
    ++ "paths outside a working tree\nusage: git diff --no-index "
    ++ "[<options>] <path> <path>")

/- Compare two files that need not be in a repository. -/
def compareFiles (world : World) (call : Call) (args : List String) :
    Ran :=
  let paths := args.filter (fun a => !a.startsWith "-" || a == "-")
  match paths with
  | [a, b] =>
    match world.files.read? call.cwd a, world.files.read? call.cwd b with
    | some old, some new =>
      if old == new then Ran.silent world 0
      else Ran.printing world 1 ("diff --git a/" ++ a ++ " b/" ++ b ++ "\n")
    | none, _ => Failure.ran world ⟨1, "error: Could not access '" ++ a ++ "'"⟩
    | _, none => Failure.ran world ⟨1, "error: Could not access '" ++ b ++ "'"⟩
  | _ => Failure.ran world notCompared

------------------------------------------------------------
-- Carrying Commands Out
------------------------------------------------------------

/- Carry a command out in a repository. -/
def inSite (world : World) (site : Site) (command : Command)
    (args : List String) : Ran :=
  finish world do
    Demands.check (Demands.rulesOf command.name) site.settings
    let world := world.withArchive { world.archive with
      substitutes := if command.name == "replace" then []
        else site.substitutes world.files }
    if command.need == .workTree && site.top?.isNone then
      if command.name == "submodule" then
        .error ⟨1, noWorkTree.text⟩
      else .error noWorkTree
    let desk ← match Desk.ofSite world site with
      | .ok desk => pure desk
      | .error failure =>
        if command.need == .repository && command.name != "diff"
            && command.name != "ls-files" then
          pure (⟨world, site, [], [], []⟩ : Desk)
        else if command.name == "reset" && args.contains "--hard" then
          pure (⟨world, site, [], [], []⟩ : Desk)
        else .error failure
    return desk.carryOut (command.job args)

/- Read or write settings, in a repository or outside. -/
def configure (world : World) (call : Call) (args : List String) : Ran :=
  finish world do
    let isApart := args.any fun a =>
      a == "--global" || a == "--system" || a == "-f" || a == "--file"
        || a.startsWith "--file="
    let site? ← match setUp world.files call with
      | .ok found => pure found
      | .error failure => if isApart then pure none else .error failure
    match site? with
    | some site =>
      let admin := site.admin.toPath
      let common := site.common.toPath
      let isSplit := site.flag "extensions.worktreeconfig" false
      let hasMore := (Naming.admins site world.files).length != 1
      let place : Configuring.Place :=
        { files := world.files
          call
          base := (site.top?.getD site.admin).toPath
          own? := some (common ++ "/config")
          tree? := if isSplit then some (admin ++ "/config.worktree")
            else none
          isShared := hasMore
          reader := ⟨world.files, call.cwd, call.env, some admin,
            some common, .unknown⟩
          object? := fun name =>
            match site.object? world name with
            | some (_, .blob content) => some content
            | _ => none }
      return Configuring.run world place args site.settings
    | none =>
      let settings ← outerSettings world.files call
      let place : Configuring.Place :=
        { files := world.files
          call
          base := call.cwd.toPath
          own? := none
          tree? := none
          isShared := false
          reader := ⟨world.files, call.cwd, call.env, none, none, .unknown⟩
          object? := fun _ => none }
      return Configuring.run world place args settings

/- The words of a text; quotes keep blanks. -/
def wordsOf (quote : Option Char) (word : Option (List Char)) :
    List Char → List String
  | [] => (word.map fun w => String.ofList w.reverse).toList
  | c :: rest =>
    match quote with
    | some q =>
      if c == q then wordsOf none word rest
      else wordsOf quote (some (c :: word.getD [])) rest
    | none =>
      if c == '"' || c == '\'' then
        wordsOf (some c) (some (word.getD [])) rest
      else if Settings.isSpace c then
        (word.map fun w => String.ofList w.reverse).toList
          ++ wordsOf none none rest
      else wordsOf none (some (c :: word.getD [])) rest

/- The settings around a working directory, in a repository or not. -/
def settingsAround (world : World) (call : Call) :
    Attempt (List Setting × Option Site) := do
  match ← setUp world.files call with
  | some site => return (site.settings, some site)
  | none => return (← outerSettings world.files call, none)

/- Apply patches where there is no repository. -/
def applyOutside (world : World) (call : Call) (args : List String) : Ran :=
  finish world do
    let settings ← outerSettings world.files call
    let admin := call.cwd ++ [Repository.adminName]
    let desk : Desk :=
      ⟨world, ⟨call, admin, admin, some call.cwd, settings⟩, [], [], []⟩
    return desk.carryOut (Applying.run true args)

/- Carry out a command with the words behind it. -/
def runCommand : Nat → World → Call → String → List String → Ran
  | 0, world, _, name, _ =>
    Failure.ran world (.fatal ("alias loop detected: expansion of '" ++ name
      ++ "' does not terminate"))
  | depth + 1, world, call, name, args =>
    if name == "init" || name == "init-db" then
      Creating.init world call args
    else if name == "clone" then Creating.clone world call args
    else if name == "config" then configure world call args
    else if name == "version" then
      Ran.printing world 0 "git version 2.43.0\n"
    else if name == "help" then Ran.silent world 0
    else if name == "diff" && args.contains "--no-index" then
      compareFiles world call args
    else if name == "submodule" && args.head? == some "-h" then
      Ran.printing world 0 "usage: git submodule [--quiet] [--cached]\n"
    else if args.head? == some "-h" then
      Failure.ran world (.usage ("usage: git " ++ name))
    else
      match commands.find? (fun command => command.name == name) with
      | some command =>
        match setUp world.files call with
        | .error failure => Failure.ran world failure
        | .ok (some site) => inSite world site command args
        | .ok none =>
          if name == "diff" then compareFiles world call args
          else if name == "apply" then applyOutside world call args
          else Failure.ran world noRepository
      | none =>
        match settingsAround world call with
        | .error failure => Failure.ran world failure
        | .ok (settings, site?) =>
          match (Settings.last? settings ("alias." ++ name.toLower)).bind
              Setting.value with
          | none =>
            Failure.ran world ⟨1, "git: '" ++ name
              ++ "' is not a git command. See 'git --help'."⟩
          | some text =>
            match text.toList with
            | '!' :: script =>
              let cwd := (site?.bind Site.top?).getD call.cwd
              let script := String.ofList script
              let start : Start :=
                ⟨"sh", ["-c", script ++ " \"$@\"", script] ++ args,
                  call.env, cwd, call.stdin, false⟩
              (call.launch world start).getD
                (Failure.ran world (.fatal "cannot run sh"))
            | chars =>
              match wordsOf none none chars with
              | next :: more =>
                runCommand depth world call next (more ++ args)
              | [] => Failure.ran world (.fatal "empty alias")

/- Let a variable of the environment have a value. -/
def Call.withVariable (call : Call) (name value : String) : Call :=
  { call with env := (name, value)
      :: call.env.filter (fun entry => entry.1 != name) }

/- The variable that hands settings on to other commands. -/
def handedOn : String := "GIT_CONFIG_PARAMETERS"

/- Let a setting hold for a command and those that it starts. -/
def Call.withSetting (call : Call) (argument : String) : Call :=
  let more := Reader.listedSetting argument
  call.withVariable handedOn
    (match call.env.lookup handedOn with
      | none => more
      | some "" => more
      | some known => known ++ " " ++ more)

/- Carry out a command behind the options of the program. -/
def runFrom (world : World) (call : Call) : List String → Ran
  | [] => Ran.printing world 1 "usage: git <command> [<args>]\n"
  | "-c" :: setting :: rest =>
    runFrom world (call.withSetting setting) rest
  | ["-c"] => Failure.ran world (.usage "-c expects a configuration string")
  | "-C" :: p :: rest =>
    if p.isEmpty then runFrom world call rest
    else
      match world.files.directory? call.cwd p with
      | some cwd => runFrom world { call with cwd } rest
      | none =>
        Failure.ran world (.fatal ("cannot change to '" ++ p
          ++ "': No such file or directory"))
  | ["-C"] => Failure.ran world (.usage "no directory given for '-C'")
  | "--git-dir" :: p :: rest =>
    runFrom world (call.withVariable "GIT_DIR" p) rest
  | "--work-tree" :: p :: rest =>
    runFrom world (call.withVariable "GIT_WORK_TREE" p) rest
  | option :: rest =>
    let flags : List (String × String) :=
      [ ("--literal-pathspecs", "GIT_LITERAL_PATHSPECS"),
        ("--glob-pathspecs", "GIT_GLOB_PATHSPECS"),
        ("--noglob-pathspecs", "GIT_NOGLOB_PATHSPECS"),
        ("--icase-pathspecs", "GIT_ICASE_PATHSPECS") ]
    match flags.lookup option with
    | some name => runFrom world (call.withVariable name "1") rest
    | none =>
      if option == "--no-replace-objects" then
        runFrom world
          (call.withVariable "GIT_NO_REPLACE_OBJECTS" "1") rest
      else if option.startsWith "--git-dir=" then
        runFrom world
          (call.withVariable "GIT_DIR" (without "--git-dir=" option)) rest
      else if option.startsWith "--work-tree=" then
        runFrom world
          (call.withVariable "GIT_WORK_TREE"
            (without "--work-tree=" option)) rest
      else if ["--no-pager", "-P", "-p", "--paginate",
          "--no-optional-locks", "--no-advice",
          "--no-lazy-fetch"].contains option then
        runFrom world call rest
      else if option == "--version" || option == "-v" then
        Ran.printing world 0 "git version 2.43.0\n"
      else if option == "--help" || option == "-h" then
        Ran.printing world 0 "usage: git <command> [<args>]\n"
      else if option.startsWith "--exec-path" || option == "--html-path" then
        Ran.printing world 0 "/usr/lib/git-core\n"
      else if option == "--bare" then
        runFrom world
          (if (call.env.lookup "GIT_DIR").isSome then call
            else call.withVariable "GIT_DIR" call.cwd.toPath) rest
      else if option.startsWith "-" then
        Failure.ran world (.usage ("unknown option: " ++ option))
      else runCommand 10 world call option rest

/- The program of version control, given how it starts others. -/
def run (launch : World → Start → Option Ran) (world : World)
    (start : Start) : Ran :=
  runFrom world ⟨start.cwd, start.env, start.stdin, launch⟩ start.args

end Versions

end Sandbox

end TreeLint
