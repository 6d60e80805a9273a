import Clearance.Expectation.Step
import Clearance.Proofs.Exchange
import Clearance.Proofs.Intent

/-
  What a step does to an expectation.

  A step turns the expectation to an intent, evaluates it
  with a new audit, makes a call on the audit that there is,
  or leaves all as it is. No step changes the role.

  Key definitions include:
    * `Expectation.Step.turned?`
    * `Expectation.Became`

  Key theorems include:
    * `Expectation.exchanges_evaluate`
    * `Expectation.events_evaluate`
    * `Expectation.result_evaluate`
    * `Expectation.after_evaluate`
    * `Expectation.step_became`
    * `Expectation.Became.intent_eq`
    * `Expectation.Became.role_eq`
-/

------------------------------------------------------------
-- Turns
------------------------------------------------------------

namespace Clearance

namespace Expectation

variable {σ : Type}

/-
  The intent to which a step turns an expectation. The name
  of no helper turns it to nothing.
-/
def Step.turned? : Step → Option Intent
  | .withAction action =>
    some (.action action)
  | .withHelper name =>
    (Helper.ofName? name).map .helper
  | .evaluate _ _ => none
  | .description => none
  | .failureMessage => none
  | .negatedFailureMessage => none
  | .audit _ => none

/- The parts of the intent belong together. -/
theorem formed_of_turned
    {taken : Step}
    {intent : Intent}
    (hTurned : taken.turned? = some intent) :
    intent.Formed := by
  cases taken with
  | withAction action =>
      cases hTurned
      exact .action action
  | withHelper name =>
      rcases Option.map_eq_some_iff.mp hTurned with
        ⟨helper, hName, hIntent⟩
      rw [← hIntent]
      exact .helper helper
  | evaluate purpose target => cases hTurned
  | description => cases hTurned
  | failureMessage => cases hTurned
  | negatedFailureMessage => cases hTurned
  | audit call => cases hTurned

/- Turning an expectation succeeds and asks nothing. -/
theorem step_of_turned
    (engine : Engine σ)
    (threshold : Level)
    (expectation : Expectation)
    {taken : Step}
    {intent : Intent}
    (state : σ)
    (hTurned : taken.turned? = some intent) :
    expectation.step engine threshold taken state =
      (Run.quiet (.ok .itself) state,
        { expectation with intent := intent }) := by
  cases taken with
  | withAction action =>
      cases hTurned
      rfl
  | withHelper name =>
      rcases Option.map_eq_some_iff.mp hTurned with
        ⟨helper, hName, hIntent⟩
      simp only [step, withHelper, Helper.resolve, hName,
        Except.map, hIntent]
  | evaluate purpose target => cases hTurned
  | description => cases hTurned
  | failureMessage => cases hTurned
  | negatedFailureMessage => cases hTurned
  | audit call => cases hTurned

end Expectation

end Clearance

------------------------------------------------------------
-- Evaluations
------------------------------------------------------------

namespace Clearance

namespace Expectation

variable {σ : Type}
variable (engine : Engine σ)
variable (threshold : Level)
variable (expectation : Expectation)
variable (target : Target)
variable (state : σ)

/- An evaluation asks what the run of its audit asks. -/
theorem exchanges_evaluate :
    Event.exchanges
        (expectation.evaluate engine threshold target
          state).1.events =
      Event.exchanges
        ((Audit.start (expectation.privilegeFor target)).run
          engine threshold state).1.events := by
  simp only [evaluate]
  split
  · rfl
  · rw [Event.exchanges_append, Event.exchanges_note,
      List.append_nil]

/- An evaluation notes the verdict behind its audit. -/
theorem events_evaluate :
    (expectation.evaluate engine threshold target
        state).1.events =
      ((Audit.start (expectation.privilegeFor target)).run
          engine threshold state).1.events ++
        match
          ((Audit.start
            (expectation.privilegeFor target)).run engine
              threshold state).1.result
        with
        | .ok findings =>
          Event.note threshold
            (expectation.entry target.controller
              findings.verdict)
        | .error _ => [] := by
  simp only [evaluate]
  split
  · next hResult =>
    rw [hResult, List.append_nil]
  · next hResult =>
    rw [hResult]
    rfl

/- An evaluation gives the verdict on the findings. -/
theorem result_evaluate :
    (expectation.evaluate engine threshold target
        state).1.result =
      ((Audit.start (expectation.privilegeFor target)).run
        engine threshold state).1.result.map
          Findings.verdict := by
  simp only [evaluate]
  split
  · next hResult =>
    rw [hResult]
    rfl
  · next hResult =>
    rw [hResult]
    rfl

/- An evaluation leaves its own privilege and audit behind. -/
theorem after_evaluate :
    (expectation.evaluate engine threshold target state).2 =
      { expectation with
        privilege := some (expectation.privilegeFor target)
        audit :=
          some
            ((Audit.start
              (expectation.privilegeFor target)).run engine
                threshold state).2 } := by
  simp only [evaluate]
  split
  · rfl
  · rfl

/- An evaluation reads the role and the intent only. -/
theorem evaluate_congr
    {left right : Expectation}
    (hRole : left.role = right.role)
    (hIntent : left.intent = right.intent) :
    left.evaluate engine threshold target state =
      right.evaluate engine threshold target state := by
  rcases left with ⟨role, intent, privilege, audit⟩
  rcases right with ⟨role', intent', privilege', audit'⟩
  cases hRole
  cases hIntent
  rfl

end Expectation

end Clearance

------------------------------------------------------------
-- Effects
------------------------------------------------------------

namespace Clearance

namespace Expectation

variable {σ : Type}

/- What a step makes of an expectation. -/
inductive Became
    (engine : Engine σ)
    (threshold : Level)
    (before : Expectation)
    (state : σ) :
    Step →
    Expectation →
    Prop where
  /- The step turns it to an intent. -/
  | turned
      {taken : Step}
      {intent : Intent}
      (hTurned : taken.turned? = some intent) :
    Became engine threshold before state taken
      { before with intent := intent }
  /- The step evaluates it with a new audit. -/
  | evaluated
      (purpose : Purpose)
      (target : Target) :
    Became engine threshold before state
      (.evaluate purpose target)
      { before with
        privilege := some (before.privilegeFor target)
        audit :=
          some
            ((Audit.start (before.privilegeFor target)).run
              engine threshold state).2 }
  /- The step is a call on the audit that there is. -/
  | called
      {audit : Audit}
      (call : Audit.Call)
      (hAudit : before.audit = some audit) :
    Became engine threshold before state (.audit call)
      { before with
        audit :=
          some
            (audit.perform engine threshold call state).2 }
  /- The step leaves it as it is. -/
  | kept
      {taken : Step}
      (hTurned : taken.turned? = none)
      (hEvaluate :
        ∀ purpose target,
          taken ≠ .evaluate purpose target)
      (hCall :
        ∀ call,
          taken = .audit call → before.audit = none) :
    Became engine threshold before state taken before

/- Every step has one of the effects. -/
theorem step_became
    (engine : Engine σ)
    (threshold : Level)
    (expectation : Expectation)
    (taken : Step)
    (state : σ) :
    Became engine threshold expectation state taken
      (expectation.step engine threshold taken state).2 := by
  cases hTurned : taken.turned? with
  | some intent =>
      rw [step_of_turned engine threshold expectation state
        hTurned]
      exact .turned hTurned
  | none =>
      cases taken with
      | withAction action =>
          cases hTurned
      | withHelper name =>
          have hName := Option.map_eq_none_iff.mp hTurned
          simp only [step, withHelper, Helper.resolve, hName,
            Except.map]
          exact .kept hTurned (by simp) (by simp)
      | evaluate purpose target =>
          simp only [step, after_evaluate]
          exact .evaluated purpose target
      | description =>
          exact .kept hTurned (by simp) (by simp)
      | failureMessage =>
          exact .kept hTurned (by simp) (by simp)
      | negatedFailureMessage =>
          exact .kept hTurned (by simp) (by simp)
      | audit call =>
          cases hAudit : expectation.audit with
          | none =>
              simp only [step, hAudit]
              exact .kept hTurned (by simp)
                fun _ _ => hAudit
          | some audit =>
              simp only [step, hAudit]
              exact .called call hAudit

namespace Became

variable {engine : Engine σ}
variable {threshold : Level}
variable {before after : Expectation}
variable {state : σ}
variable {taken : Step}

/- The intent changes with a turn only. -/
theorem intent_eq
    (hBecame :
      Became engine threshold before state taken after) :
    after.intent = taken.turned?.getD before.intent := by
  cases hBecame with
  | turned hTurned =>
      rw [hTurned]
      rfl
  | evaluated purpose target =>
      rfl
  | called call hAudit =>
      rfl
  | kept hTurned hEvaluate hCall =>
      rw [hTurned]
      rfl

/- The role never changes. -/
theorem role_eq
    (hBecame :
      Became engine threshold before state taken after) :
    after.role = before.role := by
  cases hBecame with
  | turned hTurned =>
      rfl
  | evaluated purpose target =>
      rfl
  | called call hAudit =>
      rfl
  | kept hTurned hEvaluate hCall =>
      rfl

end Became

end Expectation

end Clearance
