import Clearance.Outcomes
import Mathlib.Data.List.Basic

/-
  The verdict on findings, and on those of whoever expects
  the opposite.

  What one side finds permitted, the other finds forbidden.
  Permission is tried first, so that the two verdicts are
  opposite unless there was nothing to find, of which both
  sides say that it is permitted.

  Key definitions include:
    * `Verdict.opposite`
    * `Findings.opposite`

  Key theorems include:
    * `Findings.permitted_iff`
    * `Findings.forbidden_iff`
    * `Findings.verdict_opposite`
-/

------------------------------------------------------------
-- Verdicts
------------------------------------------------------------

namespace Clearance

namespace Findings

/- Permission is every yes and no where it is expected. -/
theorem permitted_iff
    (findings : Findings) :
    findings.permitted = true ↔
      (∀ entry ∈ findings.results.entries,
        entry.2 = true) ∧
        ∀ entry ∈ findings.negated.entries,
          entry.2 = false := by
  simp [permitted, Outcomes.allHold, Outcomes.anyHolds]

/- Prohibition is every yes and no where it is opposite. -/
theorem forbidden_iff
    (findings : Findings) :
    findings.forbidden = true ↔
      (∀ entry ∈ findings.results.entries,
        entry.2 = false) ∧
        ∀ entry ∈ findings.negated.entries,
          entry.2 = true := by
  simp [forbidden, Outcomes.allHold, Outcomes.anyHolds]

theorem verdict_eq_permitted_iff
    (findings : Findings) :
    findings.verdict = .permitted ↔
      findings.permitted = true := by
  unfold verdict
  split
  · next hPermitted => simp [hPermitted]
  · next hPermitted =>
    split
    · simp [hPermitted]
    · simp [hPermitted]

/- Permission is tried before prohibition. -/
theorem verdict_eq_forbidden_iff
    (findings : Findings) :
    findings.verdict = .forbidden ↔
      ¬ findings.permitted = true ∧
        findings.forbidden = true := by
  unfold verdict
  split
  · next hPermitted => simp [hPermitted]
  · next hPermitted =>
    split
    · next hForbidden => simp [hPermitted, hForbidden]
    · next hForbidden => simp [hForbidden]

theorem verdict_eq_mixed_iff
    (findings : Findings) :
    findings.verdict = .mixed ↔
      ¬ findings.permitted = true ∧
        ¬ findings.forbidden = true := by
  unfold verdict
  split
  · next hPermitted => simp [hPermitted]
  · next hPermitted =>
    split
    · next hForbidden => simp [hForbidden]
    · next hForbidden => simp [hPermitted, hForbidden]

end Findings

end Clearance

------------------------------------------------------------
-- The Opposite
------------------------------------------------------------

namespace Clearance

/- The verdict with permission and prohibition exchanged. -/
def Verdict.opposite : Verdict → Verdict
  | .permitted => .forbidden
  | .forbidden => .permitted
  | .mixed => .mixed

theorem Verdict.opposite_inj
    {left right : Verdict} :
    left.opposite = right.opposite ↔ left = right := by
  cases left <;> cases right <;> decide

namespace Findings

/- The findings of whoever expects the opposite. -/
def opposite (findings : Findings) : Findings where
  results := findings.negated
  negated := findings.results

/- What is permitted to one side is forbidden to the other. -/
theorem permitted_opposite
    (findings : Findings) :
    findings.opposite.permitted = findings.forbidden :=
  Bool.and_comm _ _

theorem forbidden_opposite
    (findings : Findings) :
    findings.opposite.forbidden = findings.permitted :=
  Bool.and_comm _ _

/- What is both permitted and forbidden is nothing at all. -/
theorem nothing_of_permitted_of_forbidden
    {findings : Findings}
    (hPermitted : findings.permitted = true)
    (hForbidden : findings.forbidden = true) :
    findings.results.entries = [] ∧
      findings.negated.entries = [] := by
  rcases findings.permitted_iff.mp hPermitted with
    ⟨hYes, hNo⟩
  rcases findings.forbidden_iff.mp hForbidden with
    ⟨hNo', hYes'⟩
  constructor
  · apply List.eq_nil_iff_forall_not_mem.mpr
    intro entry hMem
    have hBoth := (hYes entry hMem).symm.trans
      (hNo' entry hMem)
    cases hBoth
  · apply List.eq_nil_iff_forall_not_mem.mpr
    intro entry hMem
    have hBoth := (hYes' entry hMem).symm.trans
      (hNo entry hMem)
    cases hBoth

/- The two sides come to opposite verdicts on something. -/
theorem verdict_opposite
    {findings : Findings}
    (hSome :
      findings.results.entries ≠ [] ∨
        findings.negated.entries ≠ []) :
    findings.opposite.verdict = findings.verdict.opposite := by
  have hApart :
      findings.permitted = true →
        ¬ findings.forbidden = true := by
    intro hPermitted hForbidden
    rcases nothing_of_permitted_of_forbidden hPermitted
        hForbidden with
      ⟨hResults, hNegated⟩
    rcases hSome with hNe | hNe
    · exact hNe hResults
    · exact hNe hNegated
  cases hVerdict : findings.verdict with
  | permitted =>
      have hPermitted :=
        findings.verdict_eq_permitted_iff.mp hVerdict
      apply findings.opposite.verdict_eq_forbidden_iff.mpr
      rw [permitted_opposite, forbidden_opposite]
      exact ⟨hApart hPermitted, hPermitted⟩
  | forbidden =>
      have hForbidden :=
        (findings.verdict_eq_forbidden_iff.mp hVerdict).2
      apply findings.opposite.verdict_eq_permitted_iff.mpr
      rw [permitted_opposite]
      exact hForbidden
  | mixed =>
      have hNeither :=
        findings.verdict_eq_mixed_iff.mp hVerdict
      apply findings.opposite.verdict_eq_mixed_iff.mpr
      rw [permitted_opposite, forbidden_opposite]
      exact hNeither.symm

end Findings

end Clearance
