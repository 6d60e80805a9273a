import Clearance.Outcomes

/-
  What the operations on audits and on expectations answer.

  Key definitions include:
    * `Answer`
-/

namespace Clearance

/- An answer. -/
inductive Answer where
  /- The expectation itself comes back. -/
  | itself
  /- There is nothing to answer. -/
  | nothing
  | truth (value : Bool)
  | verdict (verdict : Verdict)
  | text (value : String)
  | outcomes (outcomes : Outcomes)
  /- The results, and those of the denied actions. -/
  | findings (findings : Findings)
  /- The short and the qualified name of a controller. -/
  | names (short qualified : String)
  deriving DecidableEq

end Clearance
