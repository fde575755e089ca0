import TreeLint.FileTree.Selection
import TreeLint.Linter.Registry
import TreeLint.Repository.Changes

/-
  The result of a run.

  Key definitions include:
    * `Task`
    * `LinterRun`
    * `Report`
    * `RunError`
    * `RunError.message`
-/

------------------------------------------------------------
-- Tasks And Reports
------------------------------------------------------------

namespace TreeLint

/- What is to be linted, and how. -/
structure Task where
  registry : Registry
  blacklist : PathSet
  sourceRoot : Path
  /- The languages to lint; none means all of them. -/
  selection : List Language
  /- Only lint files that differ from the last commit. -/
  onlyChanged : Bool
  /- Describe what would be done, and start no linter. -/
  dryRun : Bool

/- A linter that was run, or would be, with how many files. -/
structure LinterRun where
  key : Language
  files : Nat
deriving DecidableEq, Repr

/- The linters that were run, and the one that ended the run. -/
structure Report where
  runs : List LinterRun
  failed : Option Language
deriving DecidableEq, Repr

namespace Report

/- The report of a run without linters. -/
def empty : Report :=
  ⟨[], none⟩

/- A report with one more linter in front. -/
def after (first : LinterRun) (rest : Report) : Report :=
  { rest with runs := first :: rest.runs }

/- Whether no linter failed. -/
def passed (report : Report) : Bool :=
  report.failed.isNone

end Report

------------------------------------------------------------
-- Errors
------------------------------------------------------------

/- Why a linter could not be run. -/
inductive StartError where
  | programNotFound (key : Language) (program : String)
  | programNotStarted (program : Path)
deriving DecidableEq, Repr

namespace StartError

/- The wording of the error. -/
def message : StartError → String
  | programNotFound key program =>
    key.name ++ " linter executable '" ++ program ++ "' not found"
  | programNotStarted program => "Failed to execute " ++ program

end StartError

/- Why a run could not be finished. -/
inductive RunError where
  /- There is no work tree whose changes could be asked for. -/
  | discovery (error : Repository.DiscoveryError)
  | query (error : Changes.QueryError)
  | walk (error : WalkError)
  | start (error : StartError)
deriving DecidableEq, Repr

namespace RunError

/- The wording of the error. -/
def message : RunError → String
  | discovery _ => "Failed to find changed files"
  | query error => error.message
  | walk error => error.message
  | start error => error.message

end RunError

end TreeLint
