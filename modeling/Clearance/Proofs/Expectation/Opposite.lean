import Clearance.Proofs.Expectation.Meaning

/-
  Audits of opposite privileges.

  Two audits are opposite if each expects what the other
  denies. They ask the same questions in another order, so
  that an engine which follows a policy fails both or none,
  and what it lets one of them find is the opposite of what
  it lets the other find. They agree on the empty privilege
  alone, of which both say that it is permitted.

  Key theorems include:
    * `Audit.run_of_opposite`
-/

------------------------------------------------------------
-- Audits
------------------------------------------------------------

namespace Clearance

namespace Audit

variable {σ : Type}
variable {engine : Engine σ}
variable {policy : Policy}
variable {left right : Audit}

/- If one of two opposite audits fails, so does the other. -/
theorem failure_iff_of_opposite
    (hFollows : engine.Follows policy)
    (hOpposite :
      right.privilege = left.privilege.opposite)
    (threshold : Level)
    (state state' : σ) :
    (∃ failure,
        (left.run engine threshold state).1.result =
          .error failure) ↔
      ∃ failure,
        (right.run engine threshold state').1.result =
          .error failure := by
  rw [exists_failure_iff_not_settled hFollows,
    exists_failure_iff_not_settled hFollows, hOpposite,
    Privilege.settled_opposite_iff]

/- What one audit finds is opposite to what the other does. -/
theorem read_of_opposite
    (hFollows : engine.Follows policy)
    (hOpposite :
      right.privilege = left.privilege.opposite)
    {threshold : Level}
    {state : σ}
    {findings : Findings}
    (hFound :
      (left.run engine threshold state).1.result =
        .ok findings)
    (state' : σ) :
    (left.run engine threshold state).2.read =
        .ok findings ∧
      (right.run engine threshold state').2.read =
        .ok findings.opposite := by
  rcases settled_of_ok hFollows threshold left state
      hFound with
    ⟨hSettled, hFindings⟩
  have hSettled' : right.privilege.Settled policy := by
    rw [hOpposite]
    exact (left.privilege.settled_opposite_iff policy).mpr
      hSettled
  have hRight :=
    (run_of_settled hFollows threshold right state'
      hSettled').2
  rw [hOpposite, Privilege.findings_opposite,
    ← hFindings] at hRight
  have hLeft :=
    (run_of_settled hFollows threshold left state
      hSettled).2
  rw [← hFindings] at hLeft
  exact ⟨hLeft, hRight⟩

/- The empty privilege is permitted, whoever is asked. -/
theorem verdict_of_nothing
    {audit : Audit}
    (hExpected : audit.privilege.expected = [])
    (hDenied : audit.privilege.denied = [])
    (engine : Engine σ)
    (threshold : Level)
    (state : σ) :
    (audit.run engine threshold state).2.answer .verdict =
      .ok (.verdict .permitted) := by
  simp only [run, hExpected, hDenied]
  rfl

end Audit

end Clearance

------------------------------------------------------------
-- Helpers
------------------------------------------------------------

namespace Clearance

namespace Expectation

variable {σ : Type}
variable {engine : Engine σ}
variable {policy : Policy}

/-
  Exactly the actions of a behavior and all but these are
  opposite privileges, and each has some action.
-/
theorem verdictOn_opposite
    (hFollows : engine.Follows policy)
    (threshold : Level)
    (expectation : Expectation)
    (behavior : Behavior)
    (target : Target)
    (state state' : σ)
    (verdict : Verdict) :
    expectation.verdictOn engine threshold
          (Helper.name ⟨.exactly, behavior⟩) target state =
        .ok verdict ↔
      expectation.verdictOn engine threshold
          (Helper.name ⟨.allBut, behavior⟩) target state' =
        .ok verdict.opposite := by
  let privilege :=
    Helper.privilege ⟨.exactly, behavior⟩ expectation.role
      target.controller
  have hOpposite :
      Helper.privilege ⟨.allBut, behavior⟩ expectation.role
          target.controller =
        privilege.opposite :=
    rfl
  have hSome :
      ¬ (privilege.expected = [] ∧ privilege.denied = []) :=
    fun hNone => behavior.actions_ne_nil hNone.1
  rw [verdictOn_name, verdictOn_name, hOpposite]
  by_cases hSettled : privilege.Settled policy
  · have hSettled' : privilege.opposite.Settled policy :=
      (privilege.settled_opposite_iff policy).mpr hSettled
    rw [(Audit.run_of_settled hFollows threshold
        (Audit.start privilege) state hSettled).1,
      (Audit.run_of_settled hFollows threshold
        (Audit.start privilege.opposite) state'
        hSettled').1]
    simp only [Except.map, Except.ok.injEq]
    rw [Audit.start, Audit.start,
      Privilege.findings_opposite,
      privilege.verdict_opposite policy hSome,
      Verdict.opposite_inj]
  · have hSettled' : ¬ privilege.opposite.Settled policy :=
      fun hOther => hSettled
        ((privilege.settled_opposite_iff policy).mp hOther)
    rcases Audit.exists_fault_of_not_settled hFollows
        threshold (Audit.start privilege) state hSettled with
      ⟨fault, hFault⟩
    rcases Audit.exists_fault_of_not_settled hFollows
        threshold (Audit.start privilege.opposite) state'
        hSettled' with
      ⟨fault', hFault'⟩
    rw [hFault, hFault']
    simp [Except.map]

end Expectation

end Clearance

------------------------------------------------------------
-- Opposite Runs
------------------------------------------------------------

namespace Clearance

namespace Audit

variable {σ : Type}

/-
  If an engine follows a policy, then of two audits with
  opposite privileges both fail or none does. If none does,
  each has the results that the other has as negated ones,
  what is permitted to one is forbidden to the other, and
  the verdicts are opposite, but for the empty privilege,
  which is permitted both times. Exactly the actions of a
  behavior and all but these are opposite in this way.
-/
theorem run_of_opposite
    {engine : Engine σ}
    {policy : Policy}
    (hFollows : engine.Follows policy)
    {left right : Audit}
    (hOpposite :
      right.privilege = left.privilege.opposite)
    (threshold : Level)
    (state state' : σ) :
    let run := left.run engine threshold state
    let other := right.run engine threshold state'
    let empty :=
      left.privilege.expected = [] ∧
        left.privilege.denied = []
    ((∃ failure, run.1.result = .error failure) ↔
        ∃ failure, other.1.result = .error failure) ∧
      (∀ findings,
        run.1.result = .ok findings →
        run.2.read = .ok findings ∧
          other.2.read = .ok findings.opposite ∧
          other.2.answer .results =
            run.2.answer .negatedResults ∧
          other.2.answer .negatedResults =
            run.2.answer .results ∧
          other.2.answer .permitted =
            run.2.answer .forbidden ∧
          other.2.answer .forbidden =
            run.2.answer .permitted ∧
          run.2.answer .verdict =
            .ok (.verdict findings.verdict) ∧
          (¬ empty →
            other.2.answer .verdict =
              .ok (.verdict findings.verdict.opposite))) ∧
      (empty →
        run.2.answer .verdict = .ok (.verdict .permitted) ∧
          other.2.answer .verdict =
            .ok (.verdict .permitted)) ∧
      ∀ (expectation : Expectation) behavior target verdict,
        expectation.verdictOn engine threshold
              (Helper.name ⟨.exactly, behavior⟩) target
              state =
            .ok verdict ↔
          expectation.verdictOn engine threshold
              (Helper.name ⟨.allBut, behavior⟩) target
              state' =
            .ok verdict.opposite := by
  intro run other empty
  refine ⟨failure_iff_of_opposite hFollows hOpposite
    threshold state state', ?_, ?_, ?_⟩
  · intro findings hFound
    rcases read_of_opposite hFollows hOpposite hFound
        state' with
      ⟨hRead, hRead'⟩
    rcases answer_of_read hRead with
      ⟨hResults, hNegated, hPermitted, hForbidden, hVerdict⟩
    rcases answer_of_read hRead' with
      ⟨hResults', hNegated', hPermitted', hForbidden',
        hVerdict'⟩
    refine ⟨hRead, hRead', hResults'.trans hNegated.symm,
      hNegated'.trans hResults.symm, ?_, ?_, hVerdict, ?_⟩
    · rw [hForbidden, ← findings.permitted_opposite]
      exact hPermitted'
    · rw [hPermitted, ← findings.forbidden_opposite]
      exact hForbidden'
    · intro hSome
      have hFindings :=
        (settled_of_ok hFollows threshold left state
          hFound).2
      have hOpposed :=
        left.privilege.verdict_opposite policy hSome
      rw [← hFindings] at hOpposed
      rw [← hOpposed]
      exact hVerdict'
  · rintro ⟨hExpected, hDenied⟩
    refine ⟨verdict_of_nothing hExpected hDenied engine
      threshold state, ?_⟩
    apply verdict_of_nothing
    · rw [hOpposite]
      exact hDenied
    · rw [hOpposite]
      exact hExpected
  · intro expectation behavior target verdict
    exact Expectation.verdictOn_opposite hFollows threshold
      expectation behavior target state state' verdict

/-
  An engine lets everyone edit and nobody show, and it has a
  fault for archiving. Whoever expects edits and no show gets
  the opposite verdict of whoever expects the opposite.
-/
theorem run_of_opposite_editors :
    let engine :=
      (Rulebook.table
        [⟨none, some "edit", none, .ok (.text "yes")⟩,
          ⟨none, some "archive", none,
            .error ⟨.lookup, "archive"⟩⟩]
        (.ok .null)).engine
    let left : Audit :=
      .start
        ⟨"writer", ["edit", "edit"], ["show"],
          ⟨"Posts", "Posts"⟩⟩
    let right : Audit :=
      .start
        ⟨"writer", ["show"], ["edit", "edit"],
          ⟨"Posts", "Posts"⟩⟩
    (left.run engine .debug 0).2.answer .verdict =
        .ok (.verdict .permitted) ∧
      (right.run engine .debug 7).2.answer .verdict =
        .ok (.verdict .forbidden) := by
  intro engine left right
  have hFollows :
      engine.Follows fun question =>
        (Rulebook.reply _ question 0).map Value.holds :=
    Rulebook.follows fun _ _ => rfl
  have hFound :
      (left.run engine .debug 0).1.result =
        .ok
          ⟨⟨[("edit", true)], by decide⟩,
            ⟨[("show", false)], by decide⟩⟩ := by
    decide
  have hOpposite :
      right.privilege = left.privilege.opposite :=
    rfl
  rcases (run_of_opposite hFollows hOpposite .debug 0
      7).2.1 _ hFound with
    ⟨_, _, _, _, _, _, hVerdict, hVerdict'⟩
  exact ⟨hVerdict, hVerdict' (by decide)⟩

end Audit

end Clearance
