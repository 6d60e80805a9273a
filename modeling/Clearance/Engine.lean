import Clearance.Behavior
import Clearance.Controller

/-
  Rule engines: what is asked of one and what it may reply.

  An engine is any function of the question and of a state of
  its own. It may answer with any value or raise a fault, and
  it may answer the same question differently each time.

  Key definitions include:
    * `Question`
    * `Reply`
    * `Engine`
-/

namespace Clearance

/- May this role take this action on this controller? -/
structure Question where
  role : Role
  action : Action
  controller : Controller
  deriving DecidableEq

/- A value, or the fault raised in place of one. -/
abbrev Reply := Except Fault Value

/- A rule engine with a state of type `σ`. -/
abbrev Engine (σ : Type) :=
  Question → σ → Reply × σ

end Clearance
