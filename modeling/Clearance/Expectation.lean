import Clearance.Audit
import Clearance.Helper

/-
  Expectations: what a role is expected to be permitted, and
  the audit of it.

  An expectation is built from a role, first for the action
  `index`, and may then be turned to one action or to a
  helper. An evaluation starts a new audit of whatever the
  expectation is turned to, runs it, and gives a verdict.
  Turning an expectation leaves its audit alone, so that a
  report speaks of the present intent and of the findings of
  the last evaluation.

  Key definitions include:
    * `Intent`
    * `Intent.action`
    * `Intent.helper`
    * `Expectation`
    * `Expectation.fresh`
    * `Expectation.withAction`
    * `Expectation.withHelper`
    * `Expectation.evaluate`
    * `Expectation.description`
    * `Expectation.failureMessage`
    * `Expectation.negatedFailureMessage`
-/

------------------------------------------------------------
-- Intents
------------------------------------------------------------

namespace Clearance

/-
  What is expected: a focus, with one action or a helper, and
  the actions that are expected to be permitted and those
  that are expected to be denied.
-/
structure Intent where
  focus : Focus
  action? : Option Action
  helper? : Option Helper
  expected : List Action
  denied : List Action
  deriving DecidableEq

namespace Intent

/- The intent to see one action permitted. -/
def action (name : Action) : Intent where
  focus := .atLeast
  action? := some name
  helper? := none
  expected := [name]
  denied := []

/- The intent for which a helper stands. -/
def helper (chosen : Helper) : Intent where
  focus := chosen.focus
  action? := none
  helper? := some chosen
  expected := chosen.expected
  denied := chosen.denied

/- The intent of an expectation that was never turned. -/
def initial : Intent :=
  .action "index"

/- An intent in words. -/
def phrase (intent : Intent) : String :=
  match intent.helper? with
  | some chosen => Text.spaced chosen.name
  | none =>
    intent.focus.word ++ " " ++
      intent.action?.getD "None"

end Intent

end Clearance

------------------------------------------------------------
-- Expectations
------------------------------------------------------------

namespace Clearance

/-
  What a role is expected to be permitted, with the privilege
  and the audit of the last evaluation.
-/
structure Expectation where
  role : Role
  intent : Intent
  privilege : Option Privilege
  audit : Option Audit
  deriving DecidableEq

namespace Expectation

/- The expectation of a role, neither turned nor evaluated. -/
def fresh (role : Role) : Expectation where
  role := role
  intent := .initial
  privilege := none
  audit := none

/- Turn an expectation to one action. -/
def withAction
    (expectation : Expectation)
    (action : Action) : Expectation :=
  { expectation with intent := .action action }

/- Turn an expectation to the helper of a name. -/
def withHelper
    (expectation : Expectation)
    (name : String) : Except Failure Expectation :=
  (Helper.resolve name).map fun helper =>
    { expectation with intent := .helper helper }

/- What an evaluation in front of a target audits. -/
def privilegeFor
    (expectation : Expectation)
    (target : Target) : Privilege where
  role := expectation.role
  expected := expectation.intent.expected
  denied := expectation.intent.denied
  controller := target.controller

end Expectation

end Clearance

------------------------------------------------------------
-- Reports
------------------------------------------------------------

namespace Clearance

namespace Expectation

/- An expectation in words. -/
def description (expectation : Expectation) : String :=
  "have permission for " ++ expectation.role ++ " " ++
    expectation.intent.phrase

/-
  What is reported of the findings on a controller, behind
  the words that open the report.
-/
def account
    (controller : Controller)
    (description : String)
    (findings : Findings) : String :=
  controller.qualifiedName ++ " to " ++ description ++
    ". results: " ++ Text.table findings.results.entries ++
    ", negated_results: " ++
    Text.table findings.negated.entries

/- Report on the last evaluation, with the given opening. -/
def report
    (opening : String)
    (expectation : Expectation) : Except Failure String :=
  match expectation.audit with
  | none =>
    .error .notEvaluated
  | some audit =>
    audit.read.map fun findings =>
      opening ++
        account audit.privilege.controller
          expectation.description findings

/- The report for whoever expected the permission. -/
def failureMessage
    (expectation : Expectation) : Except Failure String :=
  expectation.report "Expected "

/- The report for whoever expected the opposite. -/
def negatedFailureMessage
    (expectation : Expectation) : Except Failure String :=
  expectation.report "Did not expect "

end Expectation

end Clearance

------------------------------------------------------------
-- Evaluation
------------------------------------------------------------

namespace Clearance

namespace Expectation

variable {σ : Type}

/- The log entry on the verdict of an evaluation. -/
def entry
    (expectation : Expectation)
    (controller : Controller)
    (verdict : Verdict) : Entry where
  source := .expectation
  level := .debug
  text :=
    controller.qualifiedName ++ " " ++
      expectation.description ++ ": " ++ verdict.word

/-
  Audit the expectation in front of a target, and give the
  verdict on the findings.
-/
def evaluate
    (engine : Engine σ)
    (threshold : Level)
    (expectation : Expectation)
    (target : Target)
    (state : σ) : Run σ Verdict × Expectation :=
  let privilege := expectation.privilegeFor target
  let (outcome, audit) :=
    (Audit.start privilege).run engine threshold state
  let after :=
    { expectation with
      privilege := some privilege
      audit := some audit }
  match outcome.result with
  | .error failure =>
    (⟨.error failure, outcome.engine, outcome.events⟩,
      after)
  | .ok findings =>
    let verdict := findings.verdict
    let noted :=
      Event.note threshold
        (expectation.entry privilege.controller verdict)
    (⟨.ok verdict, outcome.engine, outcome.events ++ noted⟩,
      after)

/-
  Pass if the verdict of an evaluation is the wanted one; if
  not, fail with the report on that same evaluation.
-/
def insist
    (wanted : Verdict)
    (reported : Except Failure String)
    (verdict : Verdict) : Except Failure Unit :=
  if verdict = wanted then
    .ok ()
  else
    match reported with
    | .ok reason => .error (.unmet reason)
    | .error failure => .error failure

end Expectation

end Clearance
