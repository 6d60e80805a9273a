import Clearance.Journal
import Clearance.Outcomes
import Clearance.Text.Layout

/-
  Audits: one question per action of a privilege, and the
  findings that come of them.

  A run asks for the expected actions first and then for the
  denied ones, and it ends with the first fault. The results
  of the expected actions are kept as soon as there are all
  of them, and so are those of the denied ones; but there is
  nothing to read before both are there.

  Key definitions include:
    * `Privilege`
    * `Audit`
    * `Audit.survey`
    * `Audit.run`
    * `Audit.read`
-/

------------------------------------------------------------
-- Privileges
------------------------------------------------------------

namespace Clearance

/-
  What a role is expected to be permitted, and to be denied,
  on a controller.
-/
structure Privilege where
  role : Role
  expected : List Action
  denied : List Action
  controller : Controller
  deriving DecidableEq

namespace Privilege

/- The question about an action. -/
def question
    (privilege : Privilege)
    (action : Action) : Question where
  role := privilege.role
  action := action
  controller := privilege.controller

end Privilege

end Clearance

------------------------------------------------------------
-- Surveys
------------------------------------------------------------

namespace Clearance

namespace Audit

variable {σ : Type}

/- The log entry on the outcome of a question. -/
def entry
    (question : Question)
    (outcome : Bool) : Entry where
  source := .audit
  level := .debug
  text :=
    "check " ++ question.controller.shortName ++ "#" ++
      question.action ++ " for " ++ question.role ++ ": " ++
      Text.truth outcome

/-
  Ask about each action in turn, record the outcomes, and
  stop at the first fault.
-/
def survey
    (engine : Engine σ)
    (threshold : Level)
    (privilege : Privilege) :
    List Action →
    Outcomes →
    σ →
    Run σ Outcomes
  | [], outcomes, state =>
    Run.quiet (.ok outcomes) state
  | action :: rest, outcomes, state =>
    let question := privilege.question action
    match engine question state with
    | (.error fault, next) =>
      ⟨.error (.raised fault), next,
        [.asked question (.error fault)]⟩
    | (.ok value, next) =>
      let noted :=
        Event.note threshold (entry question value.holds)
      (survey engine threshold privilege rest
        (outcomes.record action value.holds) next).preceded
          (.asked question (.ok value) :: noted)

end Audit

end Clearance

------------------------------------------------------------
-- Audits
------------------------------------------------------------

namespace Clearance

/-
  A privilege, with the results of the expected actions and
  of the denied actions. Each of the two is replaced once a
  run has asked about all of its actions, so they may come
  from different runs.
-/
structure Audit where
  privilege : Privilege
  results : Option Outcomes
  negated : Option Outcomes
  deriving DecidableEq

namespace Audit

variable {σ : Type}

/- An audit that has not been run. -/
def start (privilege : Privilege) : Audit where
  privilege := privilege
  results := none
  negated := none

/- The findings, which take both results. -/
def findings (audit : Audit) : Option Findings :=
  match audit.results, audit.negated with
  | some results, some negated => some ⟨results, negated⟩
  | _, _ => none

/- The findings, or the failure to have any. -/
def read (audit : Audit) : Except Failure Findings :=
  match audit.findings with
  | some findings => .ok findings
  | none => .error .notRun

/- Keep new results of the expected actions. -/
def keepResults
    (audit : Audit)
    (results : Outcomes) : Audit :=
  { audit with results := some results }

/- Keep new results of the denied actions. -/
def keepNegated
    (audit : Audit)
    (negated : Outcomes) : Audit :=
  { audit with negated := some negated }

/- Ask about the expected and then the denied actions. -/
def run
    (engine : Engine σ)
    (threshold : Level)
    (audit : Audit)
    (state : σ) : Run σ Findings × Audit :=
  let ask := survey engine threshold audit.privilege
  let first := ask audit.privilege.expected .empty state
  match first.result with
  | .error failure =>
    (⟨.error failure, first.engine, first.events⟩, audit)
  | .ok results =>
    let kept := audit.keepResults results
    let second :=
      ask audit.privilege.denied .empty first.engine
    let events := first.events ++ second.events
    match second.result with
    | .error failure =>
      (⟨.error failure, second.engine, events⟩, kept)
    | .ok negated =>
      (⟨.ok ⟨results, negated⟩, second.engine, events⟩,
        kept.keepNegated negated)

end Audit

end Clearance
