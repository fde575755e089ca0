import TreeLint.Proofs.Linter.Verdicts
import TreeLint.Proofs.Text.SeenLines
import TreeLint.Run.Event

/-
  From the output of a linter to the error stream.

  Key definitions include:
    * `Policy.reported`

  Key theorems include:
    * `Policy.seen_told`
    * `Event.seen_stderr_diagnosed`
    * `Event.stderr_diagnosed_eq_empty_iff`

  What a linter told is its reported lines joined, and what is
  printed is the text that was told, trimmed at its end.  On
  both ways no line that is seen is lost, and no two of them
  become one.
-/

------------------------------------------------------------
-- Reported Lines
------------------------------------------------------------

namespace TreeLint

namespace Policy

/-
  The lines that count as what a linter has found.  Findings
  among status lines stand between line breaks of any kind;
  all other output is cut at line feeds only.
-/
def reported
    (policy : Policy)
    (stdout stderr : String) : List (List Char) :=
  match policy with
  | cpplint =>
    remaining (Text.pieces Text.isLineBreak stderr.toList)
  | quiet =>
    Text.fedLines stdout.toList ++ Text.fedLines stderr.toList
  | exitStatus => Text.fedLines stdout.toList

/- A finding is a line, so it holds no line feed. -/
theorem not_feed_of_mem_remaining
    {report line : List Char}
    (hLine : line ∈ remaining (Text.pieces Text.isLineBreak report)) :
    '\n' ∉ line := by
  have hPiece : line ∈ Text.pieces Text.isLineBreak report :=
    (List.mem_filter.mp hLine).1
  intro hFeed
  have hNot :=
    Text.not_separator_of_mem_pieces _ report line hPiece '\n' hFeed
  cases hNot

/- What is told has the reported lines, as far as they are seen. -/
theorem seen_told
    (policy : Policy)
    (stdout stderr : String) :
    Text.seen (Text.fedLines (policy.told stdout stderr).toList) =
      Text.seen (policy.reported stdout stderr) := by
  cases policy with
  | cpplint =>
    unfold told reported
    rw [findings_of_cutInto (Text.cutInto_pieces stderr.toList)]
    exact
      Text.seen_fedLines_joinWith_lines fun _ => not_feed_of_mem_remaining
  | quiet =>
    unfold told reported
    rw [Text.seen_fedLines_joinWith_filter, Text.seen_append]
    simp
  | exitStatus => rfl

end Policy

------------------------------------------------------------
-- Printed Lines
------------------------------------------------------------

/- Nothing is left of a text exactly if nothing of it is seen. -/
theorem Text.trimTextEnd_eq_empty_iff
    {text : String} :
    trimTextEnd text = "" ↔ seen (fedLines text.toList) = [] := by
  rw [seen_fedLines_eq_nil_iff, ← trimEnd_eq_nil_iff, trimTextEnd,
    ← String.toList_eq_nil_iff, String.toList_ofList]

namespace Event

section

variable (text : String)

/- A diagnosis is printed trimmed, on lines of its own. -/
theorem stderr_diagnosed :
    stderr [.diagnosed text] =
      if Text.trimTextEnd text = "" then ""
      else Text.trimTextEnd text ++ "\n" := by
  unfold stderr
  by_cases hEmpty : Text.trimTextEnd text = "" <;>
    simp [errorLine?, hEmpty]

/- Nothing is printed exactly if nothing of the text is seen. -/
theorem stderr_diagnosed_eq_empty_iff :
    stderr [.diagnosed text] = "" ↔
      Text.seen (Text.fedLines text.toList) = [] := by
  rw [stderr_diagnosed, ← Text.trimTextEnd_eq_empty_iff]
  split
  · next hEmpty => simp [hEmpty]
  · next hSome => simp [hSome, String.append_eq_empty_iff]

/- All lines that are seen are printed, the last one trimmed. -/
theorem seen_stderr_diagnosed :
    Text.seen (Text.fedLines (stderr [.diagnosed text]).toList) =
      Text.lastTrimmed (Text.seen (Text.fedLines text.toList)) := by
  have hTrimmed :
      (Text.trimTextEnd text).toList = Text.trimEnd text.toList :=
    String.toList_ofList
  rw [stderr_diagnosed, ← Text.seen_fedLines_trimEnd, ← hTrimmed]
  split
  · next hEmpty => rw [hEmpty]
  · have hNothing : Text.seen (Text.fedLines []) = [] := by decide
    have hLine :
        (Text.trimTextEnd text ++ "\n").toList =
          (Text.trimTextEnd text).toList ++ '\n' :: [] := by
      simp
    rw [hLine, Text.fedLines_append_feed, Text.seen_append, hNothing,
      List.append_nil]

end

end Event

end TreeLint
