import TreeLint.Proofs.Linter.Findings

/-
  What a verdict comes down to, and why a failure stays one.

  Key definitions include:
    * `Policy.objects`
    * `Policy.told`
    * `Text.Continues`

  Key theorems include:
    * `Policy.passed_interpret`
    * `Policy.diagnostics_interpret`
    * `Policy.objects_of_continues`
    * `Policy.failure_not_talked_away`

  A linter passes if it ends well and its policy has nothing to
  object to in its output.  An objection is never answered by
  more output, so no policy can be made to pass by printing
  further lines.
-/

------------------------------------------------------------
-- Longer Outputs
------------------------------------------------------------

namespace TreeLint

namespace Text

/- A text with nothing more, or with more behind a line feed. -/
def Continues (text longer : String) : Prop :=
  longer = text ∨ ∃ more, longer = text ++ "\n" ++ more

theorem Continues.eq_empty
    {text longer : String}
    (hLonger : Continues text longer)
    (hEmpty : longer = "") :
    text = "" := by
  rcases hLonger with rfl | ⟨more, rfl⟩
  · exact hEmpty
  · simp [String.append_eq_empty_iff] at hEmpty

end Text

------------------------------------------------------------
-- Verdicts
------------------------------------------------------------

/- A linter that passed has no diagnostics. -/
theorem Outcome.diagnostics_judge_of_passed
    {exitOk : Bool}
    {diagnostics : String}
    (hPassed : (judge exitOk diagnostics).passed = true) :
    (judge exitOk diagnostics).diagnostics = "" := by
  unfold judge at hPassed ⊢
  split at hPassed
  · next hTest => rw [if_pos hTest]
  · cases hPassed

namespace Policy

/- Whether the output alone decides against a linter. -/
def objects (policy : Policy) (stdout stderr : String) : Bool :=
  match policy with
  | cpplint => !(findings stderr).all Text.isBlankText
  | quiet => !(stdout.isEmpty && stderr.isEmpty)
  | exitStatus => false

/- What a linter that failed is said to have found. -/
def told (policy : Policy) (stdout stderr : String) : String :=
  match policy with
  | cpplint => Text.joinWith "\n" (findings stderr)
  | quiet =>
    Text.joinWith "\n"
      ([stdout, stderr].filter fun stream => !stream.isEmpty)
  | exitStatus => stdout

section

variable {policy : Policy} {exitCode : Option Int}
variable {stdout stderr : String}

/- Every verdict is a judgement on some diagnostics. -/
theorem exists_interpret_eq_judge
    (policy : Policy)
    (exitCode : Option Int)
    (stdout stderr : String) :
    ∃ exitOk diagnostics,
      policy.interpret exitCode stdout stderr =
        Outcome.judge exitOk diagnostics := by
  unfold interpret
  cases policy with
  | cpplint => exact ⟨_, _, rfl⟩
  | quiet =>
    simp only
    split <;> exact ⟨_, _, rfl⟩
  | exitStatus =>
    simp only
    split <;> exact ⟨_, _, rfl⟩

/- To pass, a linter ends well and gives no cause to object. -/
theorem passed_interpret
    (policy : Policy)
    (exitCode : Option Int)
    (stdout stderr : String) :
    (policy.interpret exitCode stdout stderr).passed =
      (exitCode == some 0 && !policy.objects stdout stderr) := by
  cases policy with
  | cpplint => rw [passed_cpplint, objects, Bool.not_not]
  | quiet =>
    have hBlank : Text.isBlankText "" = true := by decide
    cases hOut : stdout.isEmpty <;> cases hErr : stderr.isEmpty <;>
      simp [interpret, objects, Outcome.passed_judge, hOut, hErr, hBlank]
  | exitStatus =>
    have hBlank : Text.isBlankText "" = true := by decide
    cases hExit : exitCode == some 0 <;>
      simp [interpret, objects, Outcome.passed_judge, hExit, hBlank]

theorem passed_interpret_iff :
    (policy.interpret exitCode stdout stderr).passed = true ↔
      exitCode = some 0 ∧ policy.objects stdout stderr = false := by
  simp [passed_interpret]

theorem failed_interpret_iff :
    (policy.interpret exitCode stdout stderr).passed = false ↔
      exitCode ≠ some 0 ∨ policy.objects stdout stderr = true := by
  rw [passed_interpret, Bool.and_eq_false_iff, beq_eq_false_iff_ne,
    Bool.not_eq_false']

/- A linter that failed is said to have found what it told. -/
theorem diagnostics_interpret
    (hFailed :
      (policy.interpret exitCode stdout stderr).passed = false) :
    (policy.interpret exitCode stdout stderr).diagnostics =
      policy.told stdout stderr := by
  cases policy with
  | cpplint => exact Outcome.diagnostics_judge hFailed
  | quiet =>
    unfold interpret told at *
    simp only at hFailed ⊢
    split at hFailed
    · next hNone =>
      rw [hNone]
      exact Outcome.diagnostics_judge hFailed
    · exact Outcome.diagnostics_judge hFailed
  | exitStatus =>
    unfold interpret told at *
    simp only at hFailed ⊢
    split at hFailed
    · next hExit => exact absurd hFailed (by decide)
    · next hExit =>
      rw [if_neg hExit]
      exact Outcome.diagnostics_judge hFailed

end

------------------------------------------------------------
-- Lasting Failures
------------------------------------------------------------

/- What was found stays found when more is printed. -/
theorem mem_findings_of_continues
    {report longer text : String}
    (hLonger : Text.Continues report longer)
    (hText : text ∈ findings report) :
    text ∈ findings longer := by
  rcases hLonger with rfl | ⟨more, rfl⟩
  · exact hText
  · unfold findings at hText ⊢
    have hFeed : Text.isLineBreak '\n' = true := rfl
    have hLines :
        Text.nonemptyLines (report ++ "\n" ++ more).toList =
          Text.nonemptyLines report.toList ++
            Text.nonemptyLines more.toList := by
      simpa using
        Text.nonemptyLines_append_break report.toList more.toList hFeed
    rw [hLines, List.filter_append, List.map_append]
    exact List.mem_append_left _ hText

/- More output only gives more cause to object. -/
theorem objects_of_continues
    {policy : Policy}
    {stdout stdout' stderr stderr' : String}
    (hStdout : Text.Continues stdout stdout')
    (hStderr : Text.Continues stderr stderr')
    (hObjects : policy.objects stdout stderr = true) :
    policy.objects stdout' stderr' = true := by
  cases policy with
  | cpplint =>
    simp only [objects, Bool.not_eq_true', List.all_eq_false] at hObjects ⊢
    rcases hObjects with ⟨text, hText, hSeen⟩
    exact ⟨text, mem_findings_of_continues hStderr hText, hSeen⟩
  | quiet =>
    simp only [objects, Bool.not_eq_true', Bool.and_eq_false_iff,
      String.isEmpty_eq_false_iff] at hObjects ⊢
    exact
      hObjects.imp (mt hStdout.eq_empty) (mt hStderr.eq_empty)
  | exitStatus => cases hObjects

/-
  A linter that passed has ended well and found nothing.  One
  that failed fails also where it ends worse, by a signal or
  with any code but zero, and where it prints more lines on
  either of its streams.
-/
theorem failure_not_talked_away
    (policy : Policy)
    (exitCode exitCode' : Option Int)
    (stdout stdout' stderr stderr' : String)
    (hExit : exitCode' = exitCode ∨ exitCode' ≠ some 0)
    (hStdout : Text.Continues stdout stdout')
    (hStderr : Text.Continues stderr stderr') :
    ((policy.interpret exitCode stdout stderr).passed = true →
      exitCode = some 0 ∧
      (policy.interpret exitCode stdout stderr).diagnostics = "") ∧
    ((policy.interpret exitCode stdout stderr).passed = false →
      (policy.interpret exitCode' stdout' stderr').passed = false) := by
  constructor
  · intro hPassed
    refine ⟨(passed_interpret_iff.mp hPassed).1, ?_⟩
    rcases exists_interpret_eq_judge policy exitCode stdout stderr with
      ⟨exitOk, diagnostics, hJudge⟩
    rw [hJudge] at hPassed ⊢
    exact Outcome.diagnostics_judge_of_passed hPassed
  · intro hFailed
    rw [failed_interpret_iff] at hFailed ⊢
    rcases hExit with rfl | hWorse
    · exact hFailed.imp_right (objects_of_continues hStdout hStderr)
    · exact .inl hWorse

/- A report of one finding. -/
def badReport : String :=
  "a.cc:1: bad  [5]\nTotal errors found: 1"

/- The same report, and then the word that nothing was found. -/
def soothingReport : String :=
  badReport ++ "\n" ++ "Total errors found: 0"

theorem soothing_report_fails :
    Text.Continues badReport soothingReport ∧
    (cpplint.interpret (some 0) "" badReport).passed = false ∧
    (cpplint.interpret (some 0) "\nclean" soothingReport).passed =
      false ∧
    (cpplint.interpret none "" soothingReport).passed = false := by
  have hReport : Text.Continues badReport soothingReport :=
    .inr ⟨_, rfl⟩
  have hOutput : Text.Continues "" "\nclean" := .inr ⟨"clean", rfl⟩
  have hFailed : (cpplint.interpret (some 0) "" badReport).passed = false :=
    by decide
  have hZero :=
    failure_not_talked_away cpplint (some 0) (some 0) "" "\nclean"
      badReport soothingReport (.inl rfl) hOutput hReport
  have hSignal :=
    failure_not_talked_away cpplint (some 0) none "" ""
      badReport soothingReport (.inr (by decide)) (.inl rfl) hReport
  exact ⟨hReport, hFailed, hZero.2 hFailed, hSignal.2 hFailed⟩

end Policy

end TreeLint
