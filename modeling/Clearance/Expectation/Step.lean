import Clearance.Audit.Call
import Clearance.Expectation

/-
  Steps on an expectation: turning it, evaluating it in one
  of five ways, reading its reports, and calls on its audit.

  Key definitions include:
    * `Expectation.Step`
    * `Expectation.step`
-/

------------------------------------------------------------
-- Steps
------------------------------------------------------------

namespace Clearance

namespace Expectation

/- What an evaluation is done for. -/
inductive Purpose where
  /- To know the verdict. -/
  | verdict
  /- To know whether all is as expected. -/
  | permitted
  /- To know whether all is opposite. -/
  | forbidden
  /- To make sure that all is as expected. -/
  | assertPermitted
  /- To make sure that all is opposite. -/
  | assertForbidden
  deriving DecidableEq

/- A step on an expectation. -/
inductive Step where
  | withAction (action : Action)
  | withHelper (name : String)
  | evaluate (purpose : Purpose) (target : Target)
  | description
  | failureMessage
  | negatedFailureMessage
  /- A call on the audit, if there is one. -/
  | audit (call : Audit.Call)

end Expectation

end Clearance

------------------------------------------------------------
-- Effects
------------------------------------------------------------

namespace Clearance

namespace Expectation

variable {σ : Type}

/- What a purpose makes of the verdict of an evaluation. -/
def Purpose.answer
    (after : Expectation)
    (verdict : Verdict) :
    Purpose → Except Failure Answer
  | .verdict =>
    .ok (.verdict verdict)
  | .permitted =>
    .ok (.truth (verdict = .permitted))
  | .forbidden =>
    .ok (.truth (verdict = .forbidden))
  | .assertPermitted =>
    (insist .permitted after.failureMessage verdict).map
      fun _ => .itself
  | .assertForbidden =>
    (insist .forbidden after.negatedFailureMessage verdict).map
      fun _ => .itself

/- Take a step. -/
def step
    (engine : Engine σ)
    (threshold : Level)
    (expectation : Expectation)
    (taken : Step)
    (state : σ) : Run σ Answer × Expectation :=
  match taken with
  | .withAction action =>
    (Run.quiet (.ok .itself) state,
      expectation.withAction action)
  | .withHelper name =>
    match expectation.withHelper name with
    | .ok turned =>
      (Run.quiet (.ok .itself) state, turned)
    | .error failure =>
      (Run.quiet (.error failure) state, expectation)
  | .evaluate purpose target =>
    let (outcome, after) :=
      expectation.evaluate engine threshold target state
    (outcome.mapResult fun result =>
        result.bind fun verdict => purpose.answer after verdict,
      after)
  | .description =>
    (Run.quiet (.ok (.text expectation.description)) state,
      expectation)
  | .failureMessage =>
    (Run.quiet (expectation.failureMessage.map .text) state,
      expectation)
  | .negatedFailureMessage =>
    (Run.quiet
      (expectation.negatedFailureMessage.map .text) state,
      expectation)
  | .audit call =>
    match expectation.audit with
    | none =>
      (Run.quiet (.ok .nothing) state, expectation)
    | some audit =>
      let (outcome, after) :=
        audit.perform engine threshold call state
      (outcome, { expectation with audit := some after })

end Expectation

end Clearance
