import Clearance.Proofs.Expectation.Purpose
import Clearance.Proofs.Text.Table

/-
  What a report tells of the findings.

  The words of a report are those of the expectation, with a
  table of the results and one of the negated results. Each
  of the tables marks its end, so that no two findings are
  reported in the same words, whatever the actions are.

  Key theorems include:
    * `Expectation.account_eq_iff`
    * `Expectation.reports_tell_findings`
-/

------------------------------------------------------------
-- Accounts
------------------------------------------------------------

namespace Clearance

namespace Expectation

/- An account of the same thing tells the tables apart. -/
theorem account_eq_iff
    (controller : Controller)
    (description : String)
    (left right : Findings) :
    account controller description left =
        account controller description right ↔
      left.results.entries = right.results.entries ∧
        left.negated.entries = right.negated.entries := by
  constructor
  · intro hEq
    simp only [account, String.append_assoc,
      String.append_right_inj] at hEq
    rcases Text.marksEnd_table hEq with ⟨hResults, hRest⟩
    have hNegated :=
      (String.append_right_inj ", negated_results: ").mp
        hRest
    exact ⟨hResults,
      Text.marksEnd_table.injective hNegated⟩
  · rintro ⟨hResults, hNegated⟩
    rw [account, account, hResults, hNegated]

variable {left right : Expectation}
variable {before after : Audit}
variable {found found' : Findings}

/- So do two reports in the same words on one controller. -/
theorem report_eq_iff
    (hLeft : left.audit = some before)
    (hRight : right.audit = some after)
    (hFound : before.read = .ok found)
    (hFound' : after.read = .ok found')
    (hWords : left.description = right.description)
    (hController :
      before.privilege.controller =
        after.privilege.controller)
    (opening : String) :
    ∃ reason reason',
      left.report opening = .ok reason ∧
        right.report opening = .ok reason' ∧
        (reason = reason' ↔
          found.results.entries = found'.results.entries ∧
            found.negated.entries =
              found'.negated.entries) := by
  refine ⟨_, _, report_of_read hLeft hFound opening,
    report_of_read hRight hFound' opening, ?_⟩
  rw [hWords, hController, String.append_right_inj,
    account_eq_iff]

/-
  Two expectations may have come to the same words, and their
  audits may be on the same controller. What is reported then
  is the same if and only if the tables of results are, entry
  by entry, and the tables of negated results. The actions in
  the tables can be any texts, also such as look like a part
  of a report.
-/
theorem reports_tell_findings
    (hLeft : left.audit = some before)
    (hRight : right.audit = some after)
    (hFound : before.read = .ok found)
    (hFound' : after.read = .ok found')
    (hWords : left.description = right.description)
    (hController :
      before.privilege.controller =
        after.privilege.controller) :
    (∃ reason reason',
      left.failureMessage = .ok reason ∧
        right.failureMessage = .ok reason' ∧
        (reason = reason' ↔
          found.results.entries = found'.results.entries ∧
            found.negated.entries =
              found'.negated.entries)) ∧
      ∃ reason reason',
        left.negatedFailureMessage = .ok reason ∧
          right.negatedFailureMessage = .ok reason' ∧
          (reason = reason' ↔
            found.results.entries =
                found'.results.entries ∧
              found.negated.entries =
                found'.negated.entries) :=
  ⟨report_eq_iff hLeft hRight hFound hFound' hWords
      hController "Expected ",
    report_eq_iff hLeft hRight hFound hFound' hWords
      hController "Did not expect "⟩

/-
  An action that reads like the end of one table and the
  start of the other is reported as the one action it is.
-/
theorem reports_tell_misleading_action :
    let audited := fun findings : Findings =>
      (⟨⟨"writer", ["index"], [], ⟨"Posts", "Posts"⟩⟩,
        some findings.results,
        some findings.negated⟩ : Audit)
    let reported := fun findings : Findings =>
      { fresh "writer" with audit := some (audited findings) }
    let left : Findings :=
      ⟨⟨[("a': True\x7d, negated_results: \x7b'b", true)],
          by decide⟩,
        .empty⟩
    let right : Findings :=
      ⟨⟨[("a", true)], by decide⟩,
        ⟨[("b", true)], by decide⟩⟩
    (reported left).failureMessage ≠
        (reported right).failureMessage ∧
      (reported left).negatedFailureMessage ≠
        (reported right).negatedFailureMessage := by
  intro audited reported left right
  have hAudit (findings : Findings) :
      (reported findings).audit = some (audited findings) :=
    rfl
  have hRead (findings : Findings) :
      (audited findings).read = .ok findings :=
    rfl
  have hApart :
      ¬ (left.results.entries = right.results.entries ∧
        left.negated.entries = right.negated.entries) := by
    decide
  rcases reports_tell_findings (hAudit left) (hAudit right)
      (hRead left) (hRead right) rfl rfl with
    ⟨⟨reason, reason', hReason, hReason', hIff⟩,
      opposite, opposite', hOpposite, hOpposite', hIff'⟩
  constructor
  · rw [hReason, hReason']
    intro hEq
    exact hApart (hIff.mp (Except.ok.inj hEq))
  · rw [hOpposite, hOpposite']
    intro hEq
    exact hApart (hIff'.mp (Except.ok.inj hEq))

end Expectation

end Clearance
