import TreeLint.Text.Blank
import TreeLint.Text.Lines

/-
  Reading the result of a linter.

  Key definitions include:
    * `Outcome`
    * `Outcome.judge`
    * `Policy`
    * `Policy.interpret`

  Linters report their findings differently.  A policy turns
  the exit code and the two output streams of a finished
  linter into a verdict with the diagnostics to show.
-/

------------------------------------------------------------
-- Outcomes
------------------------------------------------------------

namespace TreeLint

/- The verdict on one linter, with what it found. -/
structure Outcome where
  passed : Bool
  diagnostics : String
deriving DecidableEq, Repr

namespace Outcome

/-
  Diagnostics that are not blank mean failure, whatever the
  exit code said.  A linter that passed has no diagnostics.
-/
def judge (exitOk : Bool) (diagnostics : String) : Outcome :=
  if exitOk && Text.isBlankText diagnostics then
    ⟨true, ""⟩
  else
    ⟨false, diagnostics⟩

end Outcome

------------------------------------------------------------
-- Policies
------------------------------------------------------------

/- How exit code and output become a verdict. -/
inductive Policy where
  /- Findings and status lines share the error stream. -/
  | cpplint
  /- Any output at all is a finding. -/
  | quiet
  /- The exit code decides; the output holds the findings. -/
  | exitStatus
deriving DecidableEq, Repr

namespace Policy

/- Every policy. -/
def all : List Policy :=
  [cpplint, quiet, exitStatus]

/- The name of a policy in a configuration. -/
def name : Policy → String
  | cpplint => "cpplint"
  | quiet => "quiet"
  | exitStatus => "exit-status"

/- The policy with a name. -/
def ofName? (text : String) : Option Policy :=
  all.find? (fun policy => policy.name == text)

@[simp]
theorem ofName?_name
    (policy : Policy) :
    ofName? policy.name = some policy := by
  cases policy <;> decide

/- How a status line about one finished file begins. -/
def doneStart : String := "Done processing "

/- The status line of a run without findings. -/
def cleanTotal : String := "Total errors found: 0"

/- A line of a report that is status and no finding. -/
def isStatusLine (line : List Char) : Bool :=
  doneStart.toList.isPrefixOf line || line == cleanTotal.toList

/- The lines of a report that are findings. -/
def findings (report : String) : List String :=
  ((Text.nonemptyLines report.toList).filter
    (fun line => !isStatusLine line)).map String.ofList

/-
  The verdict on a finished linter.  There is no exit code
  when a signal ended it.
-/
def interpret
    (policy : Policy)
    (exitCode : Option Int)
    (stdout stderr : String) : Outcome :=
  let exitOk := exitCode == some 0
  match policy with
  | cpplint =>
    Outcome.judge exitOk (Text.joinWith "\n" (findings stderr))
  | quiet =>
    match [stdout, stderr].filter (fun stream => !stream.isEmpty) with
    | [] => Outcome.judge exitOk ""
    | streams => Outcome.judge false (Text.joinWith "\n" streams)
  | exitStatus =>
    if exitOk then
      Outcome.judge true ""
    else
      Outcome.judge false stdout

end Policy

end TreeLint
