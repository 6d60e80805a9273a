import Clearance.Proofs.Audit.Run
import Clearance.Proofs.Expectation.Step
import Clearance.Proofs.Text.Table

/-
  The five purposes of an evaluation.

  An evaluation is the same whatever it is done for: a fault
  is passed on, and a verdict is told, compared, or insisted
  on. If it is insisted on in vain, the reason that is given
  is the report on the findings of this very evaluation.

  Key definitions include:
    * `Expectation.Evaluated`

  Key theorems include:
    * `Expectation.account_eq`
    * `Expectation.report_of_read`
    * `Expectation.evaluate_evaluated`
    * `Expectation.Purpose.answer_of_reports`
    * `Expectation.purposes_agree`
-/

------------------------------------------------------------
-- Ways Of An Evaluation
------------------------------------------------------------

namespace Clearance

namespace Expectation

variable {σ : Type}

/-
  The ways for an evaluation to go: the exchanges, the result
  and the audit after it.
-/
inductive Evaluated
    (privilege : Privilege) :
    List Exchange →
    Except Failure Verdict →
    Audit →
    Prop where
  /- A question raises a fault. -/
  | failed
      {asked : List Exchange}
      {fault : Fault}
      {audit : Audit}
      (hFault : Exchange.firstFault? asked = some fault) :
    Evaluated privilege asked (.error (.raised fault)) audit
  /- No question does, and the findings are kept. -/
  | judged
      {first second : List Exchange}
      {audit : Audit}
      (hFirst :
        first.map Exchange.action = privilege.expected)
      (hSecond :
        second.map Exchange.action = privilege.denied)
      (hFaultless :
        Exchange.firstFault? (first ++ second) = none)
      (hPrivilege : audit.privilege = privilege)
      (hRead :
        audit.read =
          .ok ⟨.ofExchanges first, .ofExchanges second⟩) :
    Evaluated privilege (first ++ second)
      (.ok
        (Findings.verdict
          ⟨.ofExchanges first, .ofExchanges second⟩))
      audit

/- Every evaluation goes one of the ways. -/
theorem evaluate_evaluated
    (engine : Engine σ)
    (threshold : Level)
    (expectation : Expectation)
    (target : Target)
    (state : σ) :
    ∃ audit,
      (expectation.evaluate engine threshold target
          state).2.audit = some audit ∧
        Evaluated (expectation.privilegeFor target)
          (Event.exchanges
            (expectation.evaluate engine threshold target
              state).1.events)
          (expectation.evaluate engine threshold target
            state).1.result
          audit := by
  have hRan :=
    Audit.run_ran engine threshold
      (Audit.start (expectation.privilegeFor target)) state
  refine ⟨_, by rw [after_evaluate], ?_⟩
  rw [exchanges_evaluate, result_evaluate]
  cases hFault :
      Exchange.firstFault?
        (Event.exchanges
          ((Audit.start
            (expectation.privilegeFor target)).run engine
              threshold state).1.events) with
  | some fault =>
      rw [hRan.result_of_fault hFault]
      exact .failed hFault
  | none =>
      rcases hRan.of_faultless hFault with
        ⟨first, second, hSplit, hFirst, hSecond, hResult,
          hAfter⟩
      rw [hSplit] at hFault
      rw [hSplit, hResult, hAfter]
      exact .judged hFirst hSecond hFault rfl rfl

/- An evaluation leaves the words for an expectation alone. -/
theorem description_evaluate
    (engine : Engine σ)
    (threshold : Level)
    (expectation : Expectation)
    (target : Target)
    (state : σ) :
    (expectation.evaluate engine threshold target
        state).2.description = expectation.description := by
  rw [after_evaluate]
  rfl

/- An evaluation passes on any fault that was raised. -/
theorem evaluate_of_fault
    {engine : Engine σ}
    {threshold : Level}
    {expectation : Expectation}
    {target : Target}
    {state : σ}
    {exchange : Exchange}
    (hMem :
      exchange ∈
        Event.exchanges
          (expectation.evaluate engine threshold target
            state).1.events)
    {fault : Fault}
    (hFault : exchange.fault? = some fault) :
    (expectation.evaluate engine threshold target
        state).1.result = .error (.raised fault) := by
  have hRan :=
    Audit.run_ran engine threshold
      (Audit.start (expectation.privilegeFor target)) state
  rw [exchanges_evaluate] at hMem
  have hFirst :=
    hRan.interrogation.firstFault?_of_mem hMem hFault
  rw [result_evaluate, hRan.result_of_fault hFirst]
  rfl

end Expectation

end Clearance

------------------------------------------------------------
-- Reports And Purposes
------------------------------------------------------------

namespace Clearance

namespace Expectation

/- An account of findings, with the tables written out. -/
theorem account_eq
    (controller : Controller)
    (description : String)
    (findings : Findings) :
    let shown := fun entries : List (Action × Bool) =>
      "\x7b" ++
        ", ".intercalate
          (entries.map fun entry =>
            Text.quote entry.1 ++ ": " ++
              if entry.2 then "True" else "False") ++
        "\x7d"
    account controller description findings =
      controller.qualifiedName ++ " to " ++ description ++
        ". results: " ++ shown findings.results.entries ++
        ", negated_results: " ++
        shown findings.negated.entries := by
  intro shown
  rw [account, Text.table_eq, Text.table_eq]

/- The report on findings that can be read. -/
theorem report_of_read
    {expectation : Expectation}
    {audit : Audit}
    {findings : Findings}
    (hAudit : expectation.audit = some audit)
    (hRead : audit.read = .ok findings)
    (opening : String) :
    expectation.report opening =
      .ok
        (opening ++
          account audit.privilege.controller
            expectation.description findings) := by
  simp only [report, hAudit, hRead, Except.map]

/- A purpose is answered by the reports that can be given. -/
theorem Purpose.answer_of_reports
    {after : Expectation}
    {reason opposite : String}
    (hReason : after.failureMessage = .ok reason)
    (hOpposite : after.negatedFailureMessage = .ok opposite)
    (verdict : Verdict)
    (purpose : Purpose) :
    purpose.answer after verdict =
      match purpose with
      | .verdict => .ok (.verdict verdict)
      | .permitted => .ok (.truth (verdict = .permitted))
      | .forbidden => .ok (.truth (verdict = .forbidden))
      | .assertPermitted =>
        if verdict = .permitted then
          .ok .itself
        else
          .error (.unmet reason)
      | .assertForbidden =>
        if verdict = .forbidden then
          .ok .itself
        else
          .error (.unmet opposite) := by
  cases purpose with
  | verdict => rfl
  | permitted => rfl
  | forbidden => rfl
  | assertPermitted =>
      rw [answer, hReason, insist]
      split <;> rfl
  | assertForbidden =>
      rw [answer, hOpposite, insist]
      split <;> rfl

end Expectation

end Clearance

------------------------------------------------------------
-- Agreement
------------------------------------------------------------

namespace Clearance

namespace Expectation

variable {σ : Type}

/- A step answers by its purpose, unless there is a failure. -/
theorem result_step_evaluate
    (engine : Engine σ)
    (threshold : Level)
    (expectation : Expectation)
    (purpose : Purpose)
    (target : Target)
    (state : σ) :
    (expectation.step engine threshold
        (.evaluate purpose target) state).1.result =
      (expectation.evaluate engine threshold target
        state).1.result.bind
          (purpose.answer
            (expectation.evaluate engine threshold target
              state).2) :=
  rfl

/-
  Whatever an evaluation is done for, it asks the same, logs
  the same and leaves the same behind. A fault comes back as
  it was raised. Without one there is a verdict, the same for
  all purposes, on the outcomes of what was asked; and an
  assertion that does not hold gives as its reason the report
  that is read afterwards. It has two tables of these same
  outcomes, with true or false for each action.
-/
theorem purposes_agree
    (engine : Engine σ)
    (threshold : Level)
    (expectation : Expectation)
    (target : Target)
    (state : σ) :
    let evaluated :=
      expectation.evaluate engine threshold target state
    let asked := Event.exchanges evaluated.1.events
    let taken := fun purpose =>
      expectation.step engine threshold
        (.evaluate purpose target) state
    let shown := fun entries : List (Action × Bool) =>
      "\x7b" ++
        ", ".intercalate
          (entries.map fun entry =>
            Text.quote entry.1 ++ ": " ++
              if entry.2 then "True" else "False") ++
        "\x7d"
    (∀ purpose,
      (taken purpose).1.events = evaluated.1.events ∧
        (taken purpose).1.engine = evaluated.1.engine ∧
        (taken purpose).2 = evaluated.2) ∧
      (∀ exchange ∈ asked, ∀ fault,
        exchange.fault? = some fault →
          ∀ purpose,
            (taken purpose).1.result =
              .error (.raised fault)) ∧
      ((∀ exchange ∈ asked, exchange.fault? = none) →
        ∃ first second reason opposite,
          let findings : Findings :=
            ⟨.ofExchanges first, .ofExchanges second⟩
          let verdict := findings.verdict
          let told :=
            target.controller.qualifiedName ++ " to " ++
              expectation.description ++ ". results: " ++
              shown findings.results.entries ++
              ", negated_results: " ++
              shown findings.negated.entries
          asked = first ++ second ∧
            first.map Exchange.action =
              expectation.intent.expected ∧
            second.map Exchange.action =
              expectation.intent.denied ∧
            findings.results.Tabulates
              expectation.intent.expected first ∧
            findings.negated.Tabulates
              expectation.intent.denied second ∧
            reason = "Expected " ++ told ∧
            opposite = "Did not expect " ++ told ∧
            (∀ purpose,
              (taken purpose).2.failureMessage =
                  .ok reason ∧
                (taken purpose).2.negatedFailureMessage =
                  .ok opposite) ∧
            (taken .verdict).1.result =
              .ok (.verdict verdict) ∧
            (taken .permitted).1.result =
              .ok (.truth (verdict = .permitted)) ∧
            (taken .forbidden).1.result =
              .ok (.truth (verdict = .forbidden)) ∧
            (taken .assertPermitted).1.result =
              (if verdict = .permitted then
                .ok .itself
              else
                .error (.unmet reason)) ∧
            (taken .assertForbidden).1.result =
              (if verdict = .forbidden then
                .ok .itself
              else
                .error (.unmet opposite)) ∧
            (verdict = .mixed →
              (taken .assertPermitted).1.result =
                  .error (.unmet reason) ∧
                (taken .assertForbidden).1.result =
                  .error (.unmet opposite))) ∧
      ∀ reason, (Failure.unmet reason).message = reason := by
  intro evaluated asked taken shown
  have hResult (purpose : Purpose) :
      (taken purpose).1.result =
        evaluated.1.result.bind
          (purpose.answer evaluated.2) :=
    result_step_evaluate engine threshold expectation
      purpose target state
  refine ⟨fun _ => ⟨rfl, rfl, rfl⟩, ?_, ?_, fun _ => rfl⟩
  · intro exchange hMem fault hFault purpose
    rw [hResult, evaluate_of_fault hMem hFault]
    rfl
  · intro hNone
    have hFaultless : Exchange.firstFault? asked = none :=
      List.findSome?_eq_none_iff.mpr hNone
    rcases evaluate_evaluated engine threshold expectation
        target state with
      ⟨audit, hAudit, hEvaluated⟩
    generalize hAsked : Event.exchanges evaluated.1.events =
      exchanges at hEvaluated
    generalize hVerdict : evaluated.1.result = result
      at hEvaluated
    cases hEvaluated with
    | failed hFault =>
        rw [← hAsked] at hFault
        cases hFaultless.symm.trans hFault
    | @judged first second _ hFirst hSecond _ hPrivilege
        hRead =>
        have hReason :=
          report_of_read hAudit hRead "Expected "
        have hOpposite :=
          report_of_read hAudit hRead "Did not expect "
        rw [description_evaluate, hPrivilege, account_eq]
          at hReason
        rw [description_evaluate, hPrivilege, account_eq]
          at hOpposite
        have hAnswer (purpose : Purpose) :=
          (hResult purpose).trans
            ((congrArg (Except.bind · _) hVerdict).trans
              (purpose.answer_of_reports hReason hOpposite _))
        refine ⟨first, second, _, _, hAsked, hFirst, hSecond,
          Outcomes.tabulates_ofExchanges hFirst,
          Outcomes.tabulates_ofExchanges hSecond,
          rfl, rfl, fun _ => ⟨hReason, hOpposite⟩,
          hAnswer .verdict, hAnswer .permitted,
          hAnswer .forbidden, hAnswer .assertPermitted,
          hAnswer .assertForbidden, ?_⟩
        intro hMixed
        have hPermitted := hAnswer .assertPermitted
        have hForbidden := hAnswer .assertForbidden
        rw [hMixed] at hPermitted hForbidden
        exact ⟨hPermitted, hForbidden⟩

end Expectation

end Clearance
