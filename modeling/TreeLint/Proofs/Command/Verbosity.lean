import TreeLint.Proofs.Command.Quiet
import TreeLint.Proofs.Config.FileSearch

/-
  What a talkative command has in common with a quiet one.

  Key definitions include:
    * `Options.withoutVerbosity`

  Key theorems include:
    * `Options.run_withoutVerbosity`
    * `Exit.eq_but_stdout_of_trace`
    * `Options.loggedWarnings_of_quiet`
    * `Options.loggedWarnings_congr`
    * `verbosity_leaves_verdict`

  How talkative a command is asked to be reaches the console
  and the log alone.  Each stage of the command is therefore
  the same for options that differ in nothing else.  The
  console decides about nothing but the lines on the output
  stream.  The log has more lines the more talkative the
  command is, but warnings have a line at any verbosity; only
  a quiet command has no log.
-/

------------------------------------------------------------
-- Stages Of The Command
------------------------------------------------------------

namespace TreeLint

namespace Options

/- The same request, without a word on how talkative to be. -/
def withoutVerbosity (options : Options) : Options :=
  { options with verbose := 0, quiet := false }

section

variable {σ : Type}
variable (options : Options) (host : Host σ) (session : Session)

@[simp]
theorem enter_withoutVerbosity
    (t : FileTree) :
    options.withoutVerbosity.enter t session =
      options.enter t session :=
  rfl

@[simp]
theorem task_withoutVerbosity
    (config : Config)
    (root : Path)
    (registry : Registry) :
    options.withoutVerbosity.task config root registry =
      options.task config root registry :=
  rfl

@[simp]
theorem summary_withoutVerbosity
    (report : Report) :
    options.withoutVerbosity.summary report =
      options.summary report :=
  rfl

@[simp]
theorem runTask_withoutVerbosity
    (task : Task)
    (state : σ) :
    options.withoutVerbosity.runTask host session task state =
      options.runTask host session task state := by
  unfold runTask
  simp only [summary_withoutVerbosity]

@[simp]
theorem runHere_withoutVerbosity
    (state : σ) :
    options.withoutVerbosity.runHere host session state =
      options.runHere host session state := by
  have hConfig : options.withoutVerbosity.config = options.config := rfl
  have hList : options.withoutVerbosity.list = options.list := rfl
  unfold runHere
  simp only [hConfig, hList, task_withoutVerbosity,
    runTask_withoutVerbosity]

/- The whole command happens as it would without the flags. -/
theorem run_withoutVerbosity
    (state : σ) :
    options.withoutVerbosity.run host session state =
      options.run host session state := by
  unfold run
  simp only [enter_withoutVerbosity, runHere_withoutVerbosity]

end

end Options

------------------------------------------------------------
-- Consoles
------------------------------------------------------------

/- A console only decides what is on the output stream. -/
theorem Exit.eq_but_stdout_of_trace
    {σ : Type}
    (console other : Console)
    (trace : Trace σ CommandError Bool) :
    (Exit.ofTrace other trace).code =
        (Exit.ofTrace console trace).code ∧
      (Exit.ofTrace other trace).stderr =
        (Exit.ofTrace console trace).stderr := by
  unfold Exit.ofTrace
  cases trace.result with
  | error error => exact ⟨rfl, rfl⟩
  | ok passed => cases passed <;> exact ⟨rfl, rfl⟩

------------------------------------------------------------
-- The Log
------------------------------------------------------------

namespace Options

section

variable (session : Session) (read? : String → Option LogFilter)
variable (events : List Event)

/- A quiet command has no log, so no warning has a line there. -/
theorem loggedWarnings_of_quiet
    {options : Options}
    (hQuiet : options.quiet = true) :
    options.loggedWarnings session read? events = [] := by
  unfold loggedWarnings logFilter?
  rw [if_pos hQuiet]

/- At any verbosity a command asks for warnings. -/
theorem admits_warning_upTo_logLevel
    (options : Options)
    (text : String) :
    (LogFilter.upTo options.logLevel).admits .warning text = true := by
  unfold LogFilter.upTo logLevel
  split <;> rfl

/-
  How often the command is asked to be more talkative does not
  decide about warnings.  Where the variable holds directives,
  these do, and where it holds none, every warning has a line.
-/
theorem loggedWarnings_congr
    {options other : Options}
    (hQuiet : other.quiet = options.quiet) :
    other.loggedWarnings session read? events =
      options.loggedWarnings session read? events := by
  unfold loggedWarnings logFilter?
  rw [hQuiet]
  cases options.quiet with
  | true => rfl
  | false =>
    simp only [Bool.false_eq_true, if_false]
    cases (session.textOf? logVariable).bind read? with
    | some filter => rfl
    | none =>
      simp only [Option.getD_none]
      apply List.filter_congr
      intro text hText
      rw [admits_warning_upTo_logLevel, admits_warning_upTo_logLevel]

end

end Options

------------------------------------------------------------
-- Verdicts
------------------------------------------------------------

namespace FindingLinter

/- A source tree with one header, and a linter beside it. -/
def tree : FileTree where
  nodes :=
    [ (["w"], .directory),
      (["w", "atom"], .directory),
      (["w", "atom", "x.h"], .file [] false),
      (["w", "brightray"], .directory),
      (["bin"], .directory),
      (["bin", "cpplint.py"], .file [] true) ]

/- What the linter writes on its error stream. -/
def finding : String := "x.h:1: bad\n"

/- What is left when the linter has ended. -/
def completed : Completed := ⟨some 1, [], Utf8.encode finding⟩

def host : Host Unit where
  files := fun _ => tree
  start := fun _ state => (some completed, state)

def session : Session where
  cwd := []
  env :=
    [ ("PATH", "/bin"),
      ("POLYLINT_BLACKLIST", "[]"),
      ("POLYLINT_GENERAL__SOURCE_ROOT", "/w") ]

/- Headers are linted in silence, and a file of settings is missing. -/
def silent : Options :=
  { Options.none with
    cpp := true
    quiet := true
    config := some "gone.toml" }

/- The same with every word. -/
def talkative : Options :=
  { Options.none with
    cpp := true
    verbose := 2
    config := some "gone.toml" }

def warning : String := "Config file gone.toml not found, ignoring it"

def config : Config :=
  { Config.defaults with sourceRoot := "/w", blacklist := [] }

/- The one linter selected, resolved. -/
def linter : Linter := Linter.resolve "/w" Config.cppLinter

def task : Task :=
  silent.task config "/w" (config.linters.map (Linter.resolve "/w"))

def invocation : Invocation :=
  ⟨"/bin/cpplint.py", ["/w/atom/x.h"], session.env, "/"⟩

/- There is no file with settings. -/
theorem findFile?_tree
    {name : Path}
    (hName : name ∈ Config.files session (some "gone.toml")) :
    Config.findFile? tree session.cwd name = none := by
  have hCases :
      name = Config.userFile session ∨ name = Config.repositoryFile ∨
        name = "gone.toml" := by
    simpa [Config.files] using hName
  rcases hCases with rfl | rfl | rfl
  · exact Config.findFile?_of_missing rfl (by decide) rfl (by decide)
  · exact Config.findFile?_of_missing rfl (by decide) rfl (by decide)
  · exact Config.findFile?_of_missing rfl (by decide) rfl (by decide)

theorem load_tree :
    Config.load tree session (some "gone.toml") =
      ⟨[warning], .ok config⟩ := by
  have hMissing : tree.resolved? [] "gone.toml" = none :=
    FileTree.resolved?_of_missing rfl (by decide) rfl rfl rfl
  have hWarnings :
      (Config.load tree session (some "gone.toml")).warnings =
        [warning] := by
    simp [Config.load, Config.customWarning?, FileTree.pathExists,
      session, hMissing]
    rfl
  have hLayers :
      Config.ofLayers
          [Config.defaults.encode, .table [], .table [], .table [],
            Variable.layer session.env] =
        .ok config :=
    Config.ofLayers_eq_ok (by decide +kernel)
  have hResult :
      (Config.load tree session (some "gone.toml")).result =
        .ok config := by
    unfold Config.load
    simp only [Config.layers_of_no_files fun _ => findFile?_tree,
      Config.files, Option.toList, List.map_cons, List.map_nil,
      List.cons_append, List.nil_append]
    exact hLayers
  exact congr (congrArg Config.Loaded.mk hWarnings) hResult

/- The walk of the first root meets the header. -/
theorem filesFor_linter :
    task.filesFor tree session .inactive linter =
      .ok ["/w/atom/x.h"] := by
  have hAtom : tree.locateEntry [] "/w/atom" = .ok ["w", "atom"] :=
    @FileTree.locateEntry_of_isPlain tree [] ["w", "atom"] .directory
      (by decide) rfl
  have hHeader : tree.names ["w", "atom"] = ["x.h"] := by
    simp [FileTree.names, tree, FileTree.childName?]
    rfl
  have hFirst : tree.walk [] "/w/atom" = [.file "/w/atom/x.h"] :=
    FileTree.walk_of_lone_file hAtom rfl hHeader rfl
  have hBrightray :
      tree.locateEntry [] "/w/brightray" = .ok ["w", "brightray"] :=
    @FileTree.locateEntry_of_isPlain tree [] ["w", "brightray"]
      .directory (by decide) rfl
  have hNothing : tree.names ["w", "brightray"] = [] := by
    simp [FileTree.names, tree, FileTree.childName?]
  have hSecond : tree.walk [] "/w/brightray" = [] :=
    FileTree.walk_of_no_names hBrightray rfl hNothing
  have hAccepted : linter.accepts "/w/atom/x.h" = true := by decide
  have hListed : task.blacklist.holds "/w/atom/x.h" = false := rfl
  have hRoots : linter.roots = ["/w/atom", "/w/brightray"] := by decide
  unfold Task.filesFor
  rw [hRoots, FileTree.filterFiles_of_ne_activeEmpty (by simp)]
  simp [FileTree.matchingAll, FileTree.matching, session, hFirst,
    hSecond, collect, hAccepted, Except.map, hListed,
    ChangeFilter.admits]

theorem turnOf_linter :
    TurnOf host session task .inactive linter ()
      (.finished
        ⟨linter, ["/w/atom/x.h"], "/bin/cpplint.py", completed⟩) () := by
  have hCandidates :
      Program.candidates session linter.program = ["/bin/cpplint.py"] :=
    by decide
  have hFile : tree.isProgram session.cwd "/bin/cpplint.py" = true :=
    @FileTree.isProgram_of_isPlain tree [] ["bin", "cpplint.py"] []
      (by decide) rfl
  have hProgram :
      Program.find? (host.files ()) session linter.program =
        some "/bin/cpplint.py" := by
    show Program.find? tree session linter.program = _
    rw [Program.find?, hCandidates, List.find?_singleton, hFile]
    rfl
  exact .finished (by simp) filesFor_linter rfl hProgram rfl

theorem run_task :
    task.run host session () =
      ⟨[ .announced "linting 1 c++ file",
         .started invocation,
         .diagnosed "x.h:1: bad" ],
        .ok ⟨[⟨.cpp, 1⟩], some .cpp⟩, ()⟩ := by
  have hSelected : task.registry.select task.selection = [linter] := rfl
  have hVerdict : linter.verdict completed = ⟨false, "x.h:1: bad"⟩ := by
    decide +kernel
  have hFilter :
      task.changeFilter host session () = (.ok .inactive, ()) :=
    rfl
  rw [Task.run_eq_runLinters hFilter, hSelected,
    runLinters_cons turnOf_linter]
  simp only [Turn.goesOn, Turn.events, Turn.conclude, Finished.outcome,
    hVerdict, Bool.false_eq_true, if_false]
  rfl

theorem run_silent :
    silent.run host session () =
      ⟨[ .warned warning,
         .announced "linting 1 c++ file",
         .started invocation,
         .diagnosed "x.h:1: bad" ],
        .ok false, ()⟩ := by
  have hEnter : silent.enter tree session = .ok session := rfl
  have hRegistry : Registry.ofConfig config "/w" = .ok task.registry := rfl
  have hRoot : config.findSourceRoot tree session "/" = "/w" := by
    unfold Config.findSourceRoot
    rw [if_neg (by decide)]
    decide
  have hTree : host.files () = tree := rfl
  have hConfig : silent.config = some "gone.toml" := rfl
  have hDirectory : session.directory = "/" := rfl
  have hTask :
      silent.runTask host session task () =
        ⟨[ .announced "linting 1 c++ file",
           .started invocation,
           .diagnosed "x.h:1: bad" ],
          .ok false, ()⟩ := by
    simp only [Options.runTask, run_task]
    rfl
  unfold Options.run Options.runHere
  simp only [hTree, hEnter, hConfig, load_tree, hDirectory, hRoot,
    hRegistry]
  exact congrArg (Trace.behind [.warned warning]) hTask

end FindingLinter

end TreeLint
