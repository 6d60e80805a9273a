import Clearance.Answer
import Clearance.Audit

/-
  Calls on an audit: to run it, or to read from it.

  Only a run asks questions. A reader of the outcomes is given
  copies of the tables, and may edit these; what this leaves
  of the tables of the audit is what stands in their places
  afterwards.

  Key definitions include:
    * `Tables.copy`
    * `Tables.edit`
    * `Audit.Reading`
    * `Audit.editCopies`
    * `Audit.answer`
    * `Audit.leave`
    * `Audit.Call`
    * `Audit.perform`
-/

------------------------------------------------------------
-- Tables And Their Copies
------------------------------------------------------------

namespace Clearance

/-
  Tables stand in a list, and whoever knows the place of a
  table can edit it.
-/
namespace Tables

/- Copy the table at a place to the end of the list. -/
def copy
    (place : Nat)
    (tables : List Outcomes) : List Outcomes :=
  tables ++ tables[place]?.toList

/- Set an outcome in the table at a place. -/
def edit
    (place : Nat)
    (action : Action)
    (outcome : Bool)
    (tables : List Outcomes) : List Outcomes :=
  tables.modify place (·.record action outcome)

/- Copy the table at a place, and edit the copy. -/
def editCopy
    (place : Nat)
    (action : Action)
    (outcome : Bool)
    (tables : List Outcomes) : List Outcomes :=
  edit tables.length action outcome (copy place tables)

end Tables

end Clearance

------------------------------------------------------------
-- Readings
------------------------------------------------------------

namespace Clearance

namespace Audit

/- What can be read from an audit. -/
inductive Reading where
  | permitted
  | forbidden
  | verdict
  | results
  | negatedResults
  | controllerNames
  /-
    Set an outcome in a copy of each table, and then read
    both tables.
  -/
  | editCopies (action : Action) (outcome : Bool)
  deriving DecidableEq

/-
  The audit when a reader has set an outcome in a copy of each
  of the two tables, which are at the first two places.
-/
def editCopies
    (audit : Audit)
    (action : Action)
    (outcome : Bool) : Audit :=
  match audit.findings with
  | none =>
    audit
  | some findings =>
    let tables :=
      Tables.editCopy 1 action outcome
        (Tables.editCopy 0 action outcome
          [findings.results, findings.negated])
    { audit with
      results := tables[0]?
      negated := tables[1]? }

/- The audit that a reading leaves. -/
def leave (audit : Audit) : Reading → Audit
  | .editCopies action outcome =>
    audit.editCopies action outcome
  | _ =>
    audit

/-
  Answer a reading. All but the names of the controller come
  from the findings.
-/
def answer
    (audit : Audit) : Reading → Except Failure Answer
  | .permitted =>
    audit.read.map fun findings => .truth findings.permitted
  | .forbidden =>
    audit.read.map fun findings => .truth findings.forbidden
  | .verdict =>
    audit.read.map fun findings => .verdict findings.verdict
  | .results =>
    audit.read.map fun findings => .outcomes findings.results
  | .negatedResults =>
    audit.read.map fun findings => .outcomes findings.negated
  | .controllerNames =>
    let controller := audit.privilege.controller
    .ok (.names controller.shortName controller.qualifiedName)
  | .editCopies action outcome =>
    (audit.editCopies action outcome).read.map .findings

end Audit

end Clearance

------------------------------------------------------------
-- Calls
------------------------------------------------------------

namespace Clearance

namespace Audit

variable {σ : Type}

/- A call on an audit. -/
inductive Call where
  | run
  | read (reading : Reading)
  deriving DecidableEq

/- Perform a call. -/
def perform
    (engine : Engine σ)
    (threshold : Level)
    (audit : Audit)
    (call : Call)
    (state : σ) : Run σ Answer × Audit :=
  match call with
  | .run =>
    let (outcome, after) := run engine threshold audit state
    (outcome.mapResult (·.map fun _ => .nothing), after)
  | .read reading =>
    (Run.quiet (audit.answer reading) state,
      audit.leave reading)

end Audit

end Clearance
