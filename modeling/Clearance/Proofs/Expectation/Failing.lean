import Clearance.Proofs.Audit.History
import Clearance.Proofs.Expectation.Purpose
import Clearance.Proofs.Helper
import Clearance.Rulebook

/-
  Steps that fail.

  The name of no helper leaves an expectation as it was. A
  fault in an evaluation leaves what the expectation is turned
  to, but nothing of an earlier evaluation: the privilege and
  the audit are new, and there is nothing to read from them.

  Key definitions include:
    * `Audit.Unreadable`

  Key theorems include:
    * `Expectation.step_of_unknown`
    * `Expectation.evaluate_interrogation`
    * `Expectation.evaluate_of_firstFault`
    * `Expectation.report_of_no_findings`
    * `Expectation.failing_steps`
-/

------------------------------------------------------------
-- Unknown Names
------------------------------------------------------------

namespace Clearance

namespace Expectation

variable {σ : Type}

/- A name that is not known changes nothing. -/
theorem step_of_unknown
    (engine : Engine σ)
    (threshold : Level)
    (expectation : Expectation)
    {name : String}
    {failure : Failure}
    (state : σ)
    (hUnknown : Helper.resolve name = .error failure) :
    expectation.step engine threshold (.withHelper name)
        state =
      (Run.quiet (.error failure) state, expectation) := by
  simp only [step, withHelper, hUnknown, Except.map]

end Expectation

end Clearance

------------------------------------------------------------
-- Unreadable Audits
------------------------------------------------------------

namespace Clearance

namespace Audit

/- Nothing but the names of the controller can be read. -/
def Unreadable (audit : Audit) : Prop :=
  ∀ reading, reading ≠ .controllerNames →
    audit.answer reading = .error .notRun

theorem unreadable_of_findings
    {audit : Audit}
    (hFindings : audit.findings = none) :
    audit.Unreadable := by
  intro reading hReading
  exact (audit.answer_eq_error_iff hReading).mpr hFindings

end Audit

end Clearance

------------------------------------------------------------
-- Faults In An Evaluation
------------------------------------------------------------

namespace Clearance

namespace Expectation

variable {σ : Type}
variable (engine : Engine σ)
variable (threshold : Level)
variable (expectation : Expectation)
variable (target : Target)
variable (state : σ)

/- An evaluation asks about its actions, up to a fault. -/
theorem evaluate_interrogation :
    Interrogation engine
      ((expectation.intent.expected ++
        expectation.intent.denied).map
          (expectation.privilegeFor target).question)
      state
      (Event.exchanges
        (expectation.evaluate engine threshold target
          state).1.events)
      (expectation.evaluate engine threshold target
        state).1.engine := by
  have hEngine :
      (expectation.evaluate engine threshold target
          state).1.engine =
        ((Audit.start (expectation.privilegeFor target)).run
          engine threshold state).1.engine := by
    simp only [evaluate]
    split <;> rfl
  rw [exchanges_evaluate, hEngine]
  exact
    (Audit.run_ran engine threshold
      (Audit.start (expectation.privilegeFor target))
      state).interrogation

variable {engine}
variable {threshold}
variable {expectation}
variable {target}
variable {state}

/- A fault leaves a new audit with nothing to read. -/
theorem evaluate_of_firstFault
    {fault : Fault}
    (hFault :
      Exchange.firstFault?
        (Event.exchanges
          (expectation.evaluate engine threshold target
            state).1.events) = some fault) :
    (expectation.evaluate engine threshold target
        state).1.result = .error (.raised fault) ∧
      ∃ audit,
        (expectation.evaluate engine threshold target
            state).2.audit = some audit ∧
          audit.privilege =
            expectation.privilegeFor target ∧
          audit.findings = none := by
  have hRan :=
    Audit.run_ran engine threshold
      (Audit.start (expectation.privilegeFor target)) state
  rw [exchanges_evaluate] at hFault
  constructor
  · rw [result_evaluate, hRan.result_of_fault hFault]
    rfl
  · exact ⟨_, by rw [after_evaluate], hRan.privilege_eq,
      hRan.findings_of_fault rfl hFault⟩

/- Nor is there anything to report then. -/
theorem report_of_no_findings
    {audit : Audit}
    (hAudit : expectation.audit = some audit)
    (hFindings : audit.findings = none)
    (opening : String) :
    expectation.report opening = .error .notRun := by
  simp only [report, hAudit, Audit.read, hFindings]
  rfl

end Expectation

end Clearance

------------------------------------------------------------
-- Failing Steps
------------------------------------------------------------

namespace Clearance

namespace Expectation

variable {σ : Type}

/-
  Whatever has become of an expectation, the name of no helper
  fails with that name, asks nothing, notes nothing and leaves
  all as it is. If a question of an evaluation raises a fault,
  then the step fails with that very fault, and the questions
  up to that one have been asked. The role and the intent are
  as before; the privilege and the audit are new, and neither
  readings nor reports tell of an earlier evaluation.
-/
theorem failing_steps
    (engine : Engine σ)
    (threshold : Level)
    (expectation : Expectation)
    (state : σ) :
    (∀ name failure,
      Helper.resolve name = .error failure →
        failure = .unknownHelper name ∧
          expectation.step engine threshold
              (.withHelper name) state =
            (⟨.error (.unknownHelper name), state, []⟩,
              expectation)) ∧
      ∀ purpose target,
        let taken :=
          expectation.step engine threshold
            (.evaluate purpose target) state
        let privilege : Privilege :=
          ⟨expectation.role, expectation.intent.expected,
            expectation.intent.denied, target.controller⟩
        let questions :=
          (privilege.expected ++ privilege.denied).map
            privilege.question
        let asked := Event.exchanges taken.1.events
        Interrogation engine questions state asked
            taken.1.engine ∧
          ∀ position fault,
            asked[position]?.bind Exchange.fault? =
              some fault →
            taken.1.result = .error (.raised fault) ∧
              asked.map Exchange.question =
                questions.take (position + 1) ∧
              taken.2.role = expectation.role ∧
              taken.2.intent = expectation.intent ∧
              taken.2.privilege = some privilege ∧
              (∃ audit,
                taken.2.audit = some audit ∧
                  audit.privilege = privilege ∧
                  audit.Unreadable) ∧
              taken.2.failureMessage = .error .notRun ∧
              taken.2.negatedFailureMessage =
                .error .notRun := by
  refine ⟨?_, ?_⟩
  · intro name failure hUnknown
    have hFailure := Helper.failure_of_resolve hUnknown
    rw [hFailure] at hUnknown
    exact ⟨hFailure,
      step_of_unknown engine threshold expectation state
        hUnknown⟩
  · intro purpose target taken privilege questions asked
    have hAsked :
        Interrogation engine questions state asked
          taken.1.engine :=
      evaluate_interrogation engine threshold expectation
        target state
    refine ⟨hAsked, ?_⟩
    intro position fault hPosition
    rcases Option.bind_eq_some_iff.mp hPosition with
      ⟨exchange, hAt, hFault⟩
    have hFirst : Exchange.firstFault? asked = some fault :=
      hAsked.firstFault?_of_mem (List.mem_of_getElem? hAt)
        hFault
    rcases evaluate_of_firstFault hFirst with
      ⟨hResult, audit, hAudit, hPrivilege, hFindings⟩
    have hAfter :
        taken.2 =
          (expectation.evaluate engine threshold target
            state).2 :=
      rfl
    rw [hAfter]
    refine ⟨?_, hAsked.questions_eq_take_of_fault hAt hFault,
      ?_, ?_, ?_, ?_,
      report_of_no_findings hAudit hFindings "Expected ",
      report_of_no_findings hAudit hFindings
        "Did not expect "⟩
    · rw [show taken.1.result = _ from
        result_step_evaluate engine threshold expectation
          purpose target state, hResult]
      rfl
    · rw [after_evaluate]
    · rw [after_evaluate]
    · rw [after_evaluate]
      rfl
    · exact ⟨audit, hAudit, hPrivilege,
        Audit.unreadable_of_findings hFindings⟩

/-
  An engine lets everyone do everything but edit, of which it
  raises a fault. After a verdict on the index, an evaluation
  of `only_to_read` is stopped at its fifth question.
-/
theorem failing_steps_of_locked_edit :
    let fault : Fault := ⟨.permission, "locked"⟩
    let engine :=
      (Rulebook.table
        [⟨none, some "edit", none, .error fault⟩]
        (.ok (.flag true))).engine
    let target : Target := .itself ⟨"Posts", "Posts"⟩
    let turned :=
      ((fresh "writer").step engine .debug
        (.evaluate .verdict target) 0).2.withHelper
          "only_to_read"
    ∃ expectation,
      turned = .ok expectation ∧
        expectation.audit.map (·.answer .verdict) =
          some (.ok (.verdict .permitted)) ∧
        (expectation.step engine .debug
          (.withHelper "only_to_archive") 1).2 =
            expectation ∧
        (expectation.step engine .debug
            (.evaluate .assertPermitted target) 1).1.result =
          .error (.raised fault) ∧
        (expectation.step engine .debug
            (.evaluate .assertPermitted target)
              1).2.failureMessage =
          .error .notRun := by
  intro fault engine target turned
  let evaluated :=
    ((fresh "writer").step engine .debug
      (.evaluate .verdict target) 0).2
  let expectation : Expectation :=
    { evaluated with intent := .helper ⟨.exactly, .read⟩ }
  have hSteps := failing_steps engine .debug expectation 1
  have hUnknown :=
    hSteps.1 "only_to_archive"
      (.unknownHelper "only_to_archive") (by decide)
  have hStopped :=
    (hSteps.2 .assertPermitted target).2 4 fault (by decide)
  exact ⟨expectation, by decide, by decide,
    congrArg Prod.snd hUnknown.2, hStopped.1,
    hStopped.2.2.2.2.2.2.1⟩

end Expectation

end Clearance
