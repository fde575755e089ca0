import TreeLint.Linter.Policy
import TreeLint.Proofs.Text.LineCuts

/-
  The verdict on a report whose findings stand among status
  lines.

  Key definitions include:
    * `Policy.IsNoise`
    * `Policy.IsFinding`
    * `Policy.remaining`

  Key theorems include:
    * `Policy.mem_findings_iff`
    * `Policy.passed_cpplint`
    * `Policy.cpplint_counts_findings_iff`
    * `Policy.cpplint_noise_is_invisible`

  The lines that remain without the status lines are the
  findings, and nothing else of the report matters.  Two tests
  decide about them: one leaves out empty lines, the other
  looks for anything but white space.  They disagree where
  every finding is blank, and the linter passes there.
-/

------------------------------------------------------------
-- Verdicts
------------------------------------------------------------

namespace TreeLint

namespace Outcome

theorem passed_judge
    (exitOk : Bool)
    (diagnostics : String) :
    (judge exitOk diagnostics).passed =
      (exitOk && Text.isBlankText diagnostics) := by
  unfold judge
  split
  · next hPassed => exact hPassed.symm
  · next hFailed => exact (Bool.eq_false_iff.mpr hFailed).symm

/- A linter that failed shows all its diagnostics. -/
theorem diagnostics_judge
    {exitOk : Bool}
    {diagnostics : String}
    (hFailed : (judge exitOk diagnostics).passed = false) :
    (judge exitOk diagnostics).diagnostics = diagnostics := by
  unfold judge at hFailed ⊢
  split at hFailed
  · cases hFailed
  · next hNot => rw [if_neg hNot]

end Outcome

------------------------------------------------------------
-- Noise And Findings
------------------------------------------------------------

namespace Policy

/-
  A line that is no finding: it is empty, or says that a file
  is done, or that nothing was found at all.
-/
def IsNoise (line : List Char) : Prop :=
  line = [] ∨
  "Done processing ".toList <+: line ∨
  line = "Total errors found: 0".toList

instance : DecidablePred IsNoise :=
  fun _ => inferInstanceAs (Decidable (_ ∨ _ ∨ _))

/- The lines that are left without the noise, in order. -/
def remaining (lines : List (List Char)) : List (List Char) :=
  lines.filter (fun line => ¬ IsNoise line)

/- A line of a report that is no noise. -/
def IsFinding (line : List Char) (report : String) : Prop :=
  Text.IsLineOf line report.toList ∧ ¬ IsNoise line

theorem isNoise_iff
    {line : List Char} :
    IsNoise line ↔ line = [] ∨ isStatusLine line = true := by
  simp [IsNoise, isStatusLine, doneStart, cleanTotal]

theorem findings_of_cutInto
    {report : String}
    {lines : List (List Char)}
    (hLines : Text.CutInto report.toList lines) :
    findings report = (remaining lines).map String.ofList := by
  unfold findings Text.nonemptyLines remaining
  rw [Text.cutInto_iff.mp hLines, List.filter_filter]
  congr 1
  apply List.filter_congr
  intro line _
  rw [Bool.eq_iff_iff]
  simp [isNoise_iff, and_comm]

theorem mem_findings_iff
    {text report : String} :
    text ∈ findings report ↔ IsFinding text.toList report := by
  rw [findings_of_cutInto (Text.cutInto_pieces _), IsFinding,
    Text.isLineOf_iff]
  constructor
  · intro hText
    rcases List.mem_map.mp hText with ⟨line, hLine, rfl⟩
    simpa [remaining] using hLine
  · intro hFinding
    refine List.mem_map.mpr ⟨text.toList, ?_, String.ofList_toList⟩
    simpa [remaining] using hFinding

------------------------------------------------------------
-- Which Reports Pass
------------------------------------------------------------

/- To pass, a linter ends well and has no finding but blank ones. -/
theorem passed_cpplint
    (exitCode : Option Int)
    (stdout stderr : String) :
    (cpplint.interpret exitCode stdout stderr).passed =
      (exitCode == some 0 &&
        (findings stderr).all Text.isBlankText) := by
  unfold interpret
  rw [Outcome.passed_judge, Text.isBlankText_joinWith]

/- It fails if it ends badly or has a finding that can be seen. -/
theorem cpplint_failed_iff
    (exitCode : Option Int)
    (stdout stderr : String) :
    (cpplint.interpret exitCode stdout stderr).passed = false ↔
      exitCode ≠ some 0 ∨
      ∃ line, IsFinding line stderr ∧ Text.isBlank line = false := by
  rw [passed_cpplint, Bool.and_eq_false_iff, beq_eq_false_iff_ne,
    List.all_eq_false]
  constructor
  · rintro (hExit | ⟨text, hText, hSeen⟩)
    · exact .inl hExit
    · exact
        .inr ⟨text.toList, mem_findings_iff.mp hText, by
          simpa [Text.isBlankText] using hSeen⟩
  · rintro (hExit | ⟨line, hFinding, hSeen⟩)
    · exact .inl hExit
    · refine .inr ⟨String.ofList line, ?_, ?_⟩
      · exact mem_findings_iff.mpr (by simpa using hFinding)
      · simp [Text.isBlankText, hSeen]

/-
  The linter fails if it ends badly or has a finding that is
  not blank.  So any finding at all decides against a linter
  that ended well exactly if there is none, or not all of them
  are blank.
-/
theorem cpplint_counts_findings_iff
    (exitCode : Option Int)
    (stdout stderr : String) :
    ((cpplint.interpret exitCode stdout stderr).passed = false ↔
      exitCode ≠ some 0 ∨
      ∃ line, IsFinding line stderr ∧ Text.isBlank line = false) ∧
    (((cpplint.interpret exitCode stdout stderr).passed = false ↔
        exitCode ≠ some 0 ∨ ∃ line, IsFinding line stderr) ↔
      exitCode ≠ some 0 ∨
      (¬ ∃ line, IsFinding line stderr) ∨
      ∃ line, IsFinding line stderr ∧ Text.isBlank line = false) := by
  refine ⟨cpplint_failed_iff exitCode stdout stderr, ?_⟩
  rw [cpplint_failed_iff]
  by_cases hSeen :
      ∃ line, IsFinding line stderr ∧ Text.isBlank line = false
  · have hSome : ∃ line, IsFinding line stderr :=
      hSeen.imp fun _ hLine => hLine.1
    simp [hSeen, hSome]
  · by_cases hSome : ∃ line, IsFinding line stderr
    · simp [hSeen, hSome]
    · simp [hSeen, hSome]

/- A report with a blank line before the finding. -/
def spacedReport : String :=
  "  \na.cc:1: bad  [5]\nDone processing a.cc\n"

theorem spaced_report_counts_findings :
    IsFinding "a.cc:1: bad  [5]".toList spacedReport ∧
    ((cpplint.interpret (some 0) "" spacedReport).passed = false ↔
      some 0 ≠ some (0 : Int) ∨
      ∃ line, IsFinding line spacedReport) := by
  have hFinding : IsFinding "a.cc:1: bad  [5]".toList spacedReport :=
    mem_findings_iff.mp (by decide)
  refine ⟨hFinding, ?_⟩
  exact
    (cpplint_counts_findings_iff (some 0) "" spacedReport).2.mpr
      (.inr (.inr ⟨_, hFinding, by decide⟩))

/- A report whose only finding is blank. -/
def blankReport : String :=
  "Done processing a.cc\n  \nTotal errors found: 0\n"

theorem blank_finding_passes :
    IsFinding "  ".toList blankReport ∧
    cpplint.interpret (some 0) "" blankReport = ⟨true, ""⟩ ∧
    ¬ ((cpplint.interpret (some 0) "" blankReport).passed = false ↔
      some 0 ≠ some (0 : Int) ∨
      ∃ line, IsFinding line blankReport) := by
  have hFinding : IsFinding "  ".toList blankReport :=
    mem_findings_iff.mp (by decide)
  have hPasses :
      cpplint.interpret (some 0) "" blankReport = ⟨true, ""⟩ := by
    decide
  refine ⟨hFinding, hPasses, ?_⟩
  intro hSame
  have hFails := hSame.mpr (.inr ⟨_, hFinding⟩)
  rw [hPasses] at hFails
  cases hFails

------------------------------------------------------------
-- What Noise Changes
------------------------------------------------------------

/-
  Reports that are the same without the noise lead to the same
  outcome, whatever the linter has printed besides.  If it
  failed, the findings are shown, each on a line of its own.
-/
theorem cpplint_noise_is_invisible
    (exitCode : Option Int)
    (stdout stdout' stderr stderr' : String)
    (lines lines' : List (List Char))
    (hLines : Text.CutInto stderr.toList lines)
    (hLines' : Text.CutInto stderr'.toList lines')
    (hSame : remaining lines = remaining lines') :
    cpplint.interpret exitCode stdout stderr =
      cpplint.interpret exitCode stdout' stderr' ∧
    ((cpplint.interpret exitCode stdout stderr).passed = false →
      (cpplint.interpret exitCode stdout stderr).diagnostics =
        Text.joinWith "\n" ((remaining lines).map String.ofList)) := by
  have hFindings : findings stderr = findings stderr' := by
    rw [findings_of_cutInto hLines, findings_of_cutInto hLines', hSame]
  constructor
  · simp only [interpret, hFindings]
  · intro hFailed
    rw [← findings_of_cutInto hLines]
    exact Outcome.diagnostics_judge hFailed

/- A total that only begins like the clean one is a finding. -/
theorem near_miss_shown_without_noise :
    cpplint.interpret (some 0) ""
        "Done processing a.cc\r\nTotal errors found: 01\r" =
      cpplint.interpret (some 0) "out"
        "\nTotal errors found: 01\nTotal errors found: 0" ∧
    (cpplint.interpret (some 0) ""
        "Done processing a.cc\r\nTotal errors found: 01\r").diagnostics =
      "Total errors found: 01" := by
  rcases cpplint_noise_is_invisible (some 0) "" "out"
      "Done processing a.cc\r\nTotal errors found: 01\r"
      "\nTotal errors found: 01\nTotal errors found: 0" _ _
      (Text.cutInto_pieces _) (Text.cutInto_pieces _) (by decide) with
    ⟨hSame, hShown⟩
  exact ⟨hSame, (hShown (by decide)).trans (by decide)⟩

end Policy

end TreeLint
