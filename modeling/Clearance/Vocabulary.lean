import Clearance.Failure

/-
  Closed sets of words: the focus of a helper and the verdict
  of an evaluation.

  Key definitions include:
    * `Vocabulary`
    * `Vocabulary.find`
    * `Focus`
    * `Focus.vocabulary`
    * `Verdict`
    * `Verdict.vocabulary`
-/

------------------------------------------------------------
-- Vocabularies
------------------------------------------------------------

namespace Clearance

/-
  A closed set of values, each with a word for it and with a
  label, under a common title.
-/
structure Vocabulary (α : Type) where
  title : String
  members : List α
  word : α → String
  label : α → String

namespace Vocabulary

variable {α : Type}

/- The member for which a word stands. -/
def find
    (vocabulary : Vocabulary α)
    (word : String) : Except Failure α :=
  match
    vocabulary.members.find? fun member =>
      vocabulary.word member == word
  with
  | some member => .ok member
  | none => .error (.unknownWord vocabulary.title word)

end Vocabulary

end Clearance

------------------------------------------------------------
-- Focus
------------------------------------------------------------

namespace Clearance

/-
  How a helper looks at a behavior: at least its actions are
  expected, exactly its actions, or all but its actions.
-/
inductive Focus where
  | atLeast
  | exactly
  | allBut
  deriving DecidableEq

namespace Focus

/- Every focus, in the order in which they are listed. -/
def all : List Focus :=
  [.atLeast, .exactly, .allBut]

/- The word for a focus in the name of a helper. -/
def word : Focus → String
  | .atLeast => "to"
  | .exactly => "only_to"
  | .allBut => "except_to"

/- The label of a focus. -/
def label : Focus → String
  | .atLeast => "TO"
  | .exactly => "ONLY_TO"
  | .allBut => "EXCEPT_TO"

/- The words for a focus. -/
def vocabulary : Vocabulary Focus where
  title := "Prefix"
  members := all
  word := word
  label := label

end Focus

end Clearance

------------------------------------------------------------
-- Verdict
------------------------------------------------------------

namespace Clearance

/-
  The outcome of an evaluation: all as expected, all opposite
  to what was expected, or some of each.
-/
inductive Verdict where
  | permitted
  | forbidden
  | mixed
  deriving DecidableEq

namespace Verdict

/- Every verdict, in the order in which they are listed. -/
def all : List Verdict :=
  [.permitted, .forbidden, .mixed]

/- The word for a verdict. -/
def word : Verdict → String
  | .permitted => "MATCH"
  | .forbidden => "NO_MATCH"
  | .mixed => "PARTIAL"

/- The words for a verdict, each of which is its label too. -/
def vocabulary : Vocabulary Verdict where
  title := "Verdict"
  members := all
  word := word
  label := word

end Verdict

end Clearance
