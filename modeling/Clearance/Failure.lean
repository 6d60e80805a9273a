import Clearance.Text.Quoted

/-
  What can go wrong, and the text that reports it.

  A failure is either found here, such as a name that no
  helper has, or it is the fault of a rule engine, which is
  passed on as it came.

  Key definitions include:
    * `Fault`
    * `Fault.message`
    * `Failure`
    * `Failure.message`
-/

------------------------------------------------------------
-- Faults Of A Rule Engine
------------------------------------------------------------

namespace Clearance

/- The kinds of fault that a rule engine may raise. -/
inductive Fault.Kind where
  | value
  | key
  | lookup
  | state
  | permission
  | unimplemented
  | assertion
  | type
  deriving DecidableEq

/- A fault that a rule engine raised in place of an answer. -/
structure Fault where
  kind : Fault.Kind
  text : String
  deriving DecidableEq

namespace Fault

/-
  The text that reports a fault. The text of a missing key
  is the key, so it is quoted.
-/
def message (fault : Fault) : String :=
  match fault.kind with
  | .key => Text.quote fault.text
  | _ => fault.text

end Fault

end Clearance

------------------------------------------------------------
-- Failures
------------------------------------------------------------

namespace Clearance

/- Why an operation has no answer. -/
inductive Failure where
  /- No helper has this name. -/
  | unknownHelper (name : String)
  /- The vocabulary with this title lacks this word. -/
  | unknownWord (title word : String)
  /- The expectation was never evaluated. -/
  | notEvaluated
  /- No run of the audit has been completed. -/
  | notRun
  /- An assertion did not hold, for the reason given. -/
  | unmet (reason : String)
  /- The rule engine raised a fault. -/
  | raised (fault : Fault)
  deriving DecidableEq

namespace Failure

/- The text that reports a failure. -/
def message : Failure → String
  | .unknownHelper name =>
    "Unknown helper method: " ++ Text.quote name
  | .unknownWord title word =>
    Text.quote word ++ " is not a valid " ++ title
  | .notEvaluated =>
    "matcher has not been evaluated"
  | .notRun =>
    "Resource.run_all() has not been called"
  | .unmet reason =>
    reason
  | .raised fault =>
    fault.message

end Failure

end Clearance
