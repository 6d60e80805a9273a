import Clearance.Proofs.Audit.Trace
import Clearance.Proofs.Expectation.Failing
import Clearance.Proofs.Expectation.Turning

/-
  No verdict without a question.

  Where nothing was asked, everything is both as expected and
  opposite to it. An expectation never comes to that, since
  whatever it is turned to has some action; so an engine that
  always raises a fault keeps it from any verdict.

  Key theorems include:
    * `Expectation.exchanges_evaluate_ne_nil`
    * `Expectation.evaluate_of_refusal`
    * `Expectation.evaluation_asks`
-/

------------------------------------------------------------
-- Refusals
------------------------------------------------------------

namespace Clearance

namespace Expectation

variable {σ : Type}

/- Every evaluation asks something. -/
theorem exchanges_evaluate_ne_nil
    (engine : Engine σ)
    (threshold : Level)
    {expectation : Expectation}
    (target : Target)
    (state : σ)
    (hFormed : expectation.intent.Formed) :
    Event.exchanges
        (expectation.evaluate engine threshold target
          state).1.events ≠ [] := by
  apply (evaluate_interrogation engine threshold expectation
    target state).exchanges_ne_nil
  rw [Ne, List.map_eq_nil_iff]
  exact hFormed.actions_ne_nil

/- A fault in place of the first answer is all there is. -/
theorem evaluate_of_refusal
    {engine : Engine σ}
    {fault : Fault}
    (hRefuses :
      ∀ question state,
        (engine question state).1 = .error fault)
    (threshold : Level)
    {expectation : Expectation}
    (target : Target)
    (state : σ)
    (hFormed : expectation.intent.Formed) :
    ∃ action,
      (expectation.intent.expected ++
          expectation.intent.denied).head? = some action ∧
        (expectation.evaluate engine threshold target
            state).1.events =
          [.asked
            ⟨expectation.role, action, target.controller⟩
            (.error fault)] := by
  have hAsked :=
    evaluate_interrogation engine threshold expectation
      target state
  rcases List.exists_cons_of_ne_nil
      hFormed.actions_ne_nil with
    ⟨action, rest, hActions⟩
  rw [hActions, List.map_cons] at hAsked
  have hSingle :=
    hAsked.eq_singleton_of_fault (hRefuses _ state)
  refine ⟨action, by rw [hActions, List.head?_cons], ?_⟩
  rw [exchanges_evaluate] at hSingle
  have hRun :=
    Audit.events_run engine threshold
      (Audit.start (expectation.privilegeFor target)) state
  rw [hSingle, List.flatMap_singleton,
    Exchange.trace_error] at hRun
  have hFault :=
    (Audit.run_ran engine threshold
      (Audit.start (expectation.privilegeFor target))
      state).result_of_fault
        (congrArg Exchange.firstFault? hSingle)
  rw [events_evaluate, hRun, hFault]
  rfl

end Expectation

end Clearance

------------------------------------------------------------
-- Reached Expectations
------------------------------------------------------------

namespace Clearance

namespace Expectation

/-
  After any history, whatever an evaluation is done for and
  whichever engine is asked, it asks at least once, although
  some helpers deny nothing and some expect nothing. So, with
  the engine that has no rules yet, it fails with the fault of
  that engine after one question, notes nothing, and leaves
  nothing to read.
-/
theorem evaluation_asks
    {σ τ : Type}
    (engine : Engine σ)
    (threshold : Level)
    (role : Role)
    (start : σ)
    (history : List (Occurrence Step σ))
    (other : Engine τ)
    (purpose : Purpose)
    (target : Target)
    (state : τ) :
    let now :=
      (reached engine threshold role start history).1
    let asked :=
      Event.questions
        (now.step other threshold (.evaluate purpose target)
          state).1.events
    asked ≠ [] ∧
      Helper.denied ⟨.exactly, .manage⟩ = [] ∧
      Helper.expected ⟨.allBut, .manage⟩ = [] ∧
      (∀ count (earlier : List (Occurrence Step Nat)),
        let unset := Rulebook.unconfigured.engine
        let before :=
          reached unset threshold role count earlier
        let taken :=
          before.1.step unset threshold
            (.evaluate purpose target) before.2
        taken.1.result =
            .error (.raised Rulebook.unconfiguredFault) ∧
          (∃ action,
            (before.1.intent.expected ++
                before.1.intent.denied).head? =
                  some action ∧
              Event.questions taken.1.events =
                [⟨role, action, target.controller⟩]) ∧
          Event.entries taken.1.events = [] ∧
          (∃ audit,
            taken.2.audit = some audit ∧
              audit.Unreadable)) ∧
      Rulebook.unconfiguredFault.kind = .unimplemented ∧
      (Failure.raised Rulebook.unconfiguredFault).message =
        "No permission check configured; override the 'permission_check' fixture" := by
  intro now asked
  refine ⟨?_, by decide, by decide, ?_, rfl, by decide⟩
  · have hFormed : now.intent.Formed :=
      formed_reached engine threshold role start history
    have hSome :=
      exchanges_evaluate_ne_nil other threshold target state
        hFormed
    rw [show asked = _ from Event.questions_eq_map _, Ne,
      List.map_eq_nil_iff]
    exact hSome
  · intro count earlier unset before taken
    have hFormed : before.1.intent.Formed :=
      formed_reached unset threshold role count earlier
    have hRole : before.1.role = role :=
      role_reached unset threshold role count earlier
    have hRefuses (question : Question) (count : Nat) :
        (unset question count).1 =
          .error Rulebook.unconfiguredFault :=
      rfl
    rcases evaluate_of_refusal hRefuses threshold target
        before.2 hFormed with
      ⟨action, hAction, hEvents⟩
    have hTaken :
        taken.1.events =
          [.asked ⟨before.1.role, action, target.controller⟩
            (.error Rulebook.unconfiguredFault)] :=
      hEvents
    have hFirst :=
      congrArg (Exchange.firstFault? ∘ Event.exchanges)
        hEvents
    rcases evaluate_of_firstFault hFirst with
      ⟨hResult, audit, hAudit, _, hFindings⟩
    refine ⟨?_, ⟨action, hAction, ?_⟩, ?_, audit, hAudit,
      Audit.unreadable_of_findings hFindings⟩
    · rw [show taken.1.result = _ from
        result_step_evaluate unset threshold before.1 purpose
          target before.2, hResult]
      rfl
    · rw [hTaken, hRole]
      rfl
    · rw [hTaken]
      rfl

end Expectation

end Clearance
