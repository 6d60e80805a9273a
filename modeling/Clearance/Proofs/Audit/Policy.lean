import Clearance.Proofs.Audit.Reading
import Clearance.Proofs.Audit.Run
import Clearance.Proofs.Policy

/-
  Runs of an audit by a policy.

  If an engine follows a policy, then a run fails exactly if
  the policy has a fault for some action of the privilege.
  If it has none, the run finds what the policy says of the
  actions, in whatever order they are asked about. A run on
  the opposite privilege therefore finds the opposite.

  Key definitions include:
    * `Privilege.opposite`
    * `Privilege.Settled`
    * `Privilege.findings`

  Key theorems include:
    * `Audit.run_of_settled`
    * `Audit.exists_fault_of_not_settled`
    * `Privilege.settled_opposite_iff`
    * `Privilege.findings_opposite`
    * `Privilege.verdict_opposite`
-/

------------------------------------------------------------
-- Privileges
------------------------------------------------------------

namespace Clearance

namespace Privilege

/- Does a policy grant an action to a privilege? -/
def rule
    (privilege : Privilege)
    (policy : Policy)
    (action : Action) : Bool :=
  policy.grants (privilege.question action)

/- A policy has no fault for any action of a privilege. -/
def Settled
    (privilege : Privilege)
    (policy : Policy) : Prop :=
  ∀ action ∈ privilege.expected ++ privilege.denied,
    ∃ granted,
      policy (privilege.question action) = .ok granted

/- What a policy says of the actions of a privilege. -/
def findings
    (privilege : Privilege)
    (policy : Policy) : Findings :=
  .ofRule (privilege.rule policy) privilege.expected
    privilege.denied

end Privilege

end Clearance

------------------------------------------------------------
-- Runs
------------------------------------------------------------

namespace Clearance

variable {σ : Type}
variable {engine : Engine σ}
variable {policy : Policy}

/- The outcome of each question is what the policy says. -/
theorem Interrogation.outcome_eq_rule
    {privilege : Privilege}
    {actions : List Action}
    {state last : σ}
    {exchanges : List Exchange}
    (hAsked :
      Interrogation engine
        (actions.map privilege.question)
        state exchanges last)
    (hFollows : engine.Follows policy)
    {exchange : Exchange}
    (hMem : exchange ∈ exchanges) :
    exchange.outcome =
      privilege.rule policy exchange.action := by
  rw [(hAsked.obeys hFollows exchange hMem).outcome_eq,
    Privilege.rule, ← hAsked.question_eq hMem]

namespace Audit

/- A run is without fault if the policy has none for it. -/
theorem Ran.firstFault?_eq_none_iff
    {audit after : Audit}
    {state last : σ}
    {asked : List Exchange}
    {result : Except Failure Findings}
    (hRan : Ran engine audit state asked result last after)
    (hFollows : engine.Follows policy) :
    Exchange.firstFault? asked = none ↔
      audit.privilege.Settled policy := by
  rw [hRan.interrogation.firstFault?_eq_none_iff hFollows,
    Privilege.Settled]
  simp only [List.forall_mem_map]

variable (hFollows : engine.Follows policy)
variable (threshold : Level)
variable (audit : Audit)
variable (state : σ)

include hFollows

/- Without a fault, a run finds what the policy says. -/
theorem run_of_settled
    (hSettled : audit.privilege.Settled policy) :
    (audit.run engine threshold state).1.result =
        .ok (audit.privilege.findings policy) ∧
      (audit.run engine threshold state).2.read =
        .ok (audit.privilege.findings policy) := by
  have hRan := run_ran engine threshold audit state
  have hAsked := hRan.interrogation
  rcases hRan.of_faultless
      ((hRan.firstFault?_eq_none_iff hFollows).mpr
        hSettled) with
    ⟨first, second, hSplit, hFirst, hSecond, hResult,
      hAfter⟩
  rw [hSplit] at hAsked
  have hResults :
      Outcomes.ofExchanges first =
        .ofRule (audit.privilege.rule policy)
          audit.privilege.expected := by
    rw [← hFirst]
    apply Outcomes.ofExchanges_eq_ofRule
    intro exchange hMem
    exact hAsked.outcome_eq_rule hFollows
      (List.mem_append_left second hMem)
  have hNegated :
      Outcomes.ofExchanges second =
        .ofRule (audit.privilege.rule policy)
          audit.privilege.denied := by
    rw [← hSecond]
    apply Outcomes.ofExchanges_eq_ofRule
    intro exchange hMem
    exact hAsked.outcome_eq_rule hFollows
      (List.mem_append_right first hMem)
  rw [hResults, hNegated] at hResult hAfter
  refine ⟨hResult, ?_⟩
  rw [hAfter]
  rfl

/- With a fault, a run fails. -/
theorem exists_fault_of_not_settled
    (hNot : ¬ audit.privilege.Settled policy) :
    ∃ fault,
      (audit.run engine threshold state).1.result =
        .error (.raised fault) := by
  have hRan := run_ran engine threshold audit state
  rw [← hRan.firstFault?_eq_none_iff hFollows] at hNot
  rcases Option.ne_none_iff_exists'.mp hNot with
    ⟨fault, hFault⟩
  exact ⟨fault, hRan.result_of_fault hFault⟩

/- A run fails exactly if the policy has a fault for it. -/
theorem exists_failure_iff_not_settled :
    (∃ failure,
        (audit.run engine threshold state).1.result =
          .error failure) ↔
      ¬ audit.privilege.Settled policy := by
  constructor
  · rintro ⟨failure, hFailed⟩ hSettled
    rw [(run_of_settled hFollows threshold audit state
      hSettled).1] at hFailed
    cases hFailed
  · intro hNot
    rcases exists_fault_of_not_settled hFollows threshold
        audit state hNot with
      ⟨fault, hFault⟩
    exact ⟨.raised fault, hFault⟩

/- What is found without a failure is what the policy says. -/
theorem settled_of_ok
    {findings : Findings}
    (hFound :
      (audit.run engine threshold state).1.result =
        .ok findings) :
    audit.privilege.Settled policy ∧
      findings = audit.privilege.findings policy := by
  have hSettled : audit.privilege.Settled policy := by
    by_contra hNot
    rcases exists_fault_of_not_settled hFollows threshold
        audit state hNot with
      ⟨fault, hFault⟩
    rw [hFound] at hFault
    cases hFault
  have hRun :=
    (run_of_settled hFollows threshold audit state
      hSettled).1
  rw [hFound, Except.ok.injEq] at hRun
  exact ⟨hSettled, hRun⟩

end Audit

end Clearance

------------------------------------------------------------
-- The Opposite Privilege
------------------------------------------------------------

namespace Clearance

namespace Privilege

/- The privilege of whoever expects the opposite. -/
def opposite (privilege : Privilege) : Privilege where
  role := privilege.role
  expected := privilege.denied
  denied := privilege.expected
  controller := privilege.controller

variable (privilege : Privilege)
variable (policy : Policy)

theorem settled_opposite_iff :
    privilege.opposite.Settled policy ↔
      privilege.Settled policy := by
  simp only [Settled, opposite, question, List.mem_append,
    or_comm]

theorem findings_opposite :
    privilege.opposite.findings policy =
      (privilege.findings policy).opposite :=
  rfl

/- If there is an action, the verdicts are opposite. -/
theorem verdict_opposite
    (hSome :
      ¬ (privilege.expected = [] ∧ privilege.denied = [])) :
    (privilege.findings policy).opposite.verdict =
      (privilege.findings policy).verdict.opposite := by
  apply Findings.verdict_opposite
  rw [findings, Findings.ofRule, Ne, Ne,
    Outcomes.entries_ofRule_eq_nil_iff,
    Outcomes.entries_ofRule_eq_nil_iff]
  exact Decidable.not_and_iff_or_not.mp hSome

end Privilege

end Clearance
