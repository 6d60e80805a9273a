import Clearance.Behavior
import Clearance.Text.Layout
import Clearance.Vocabulary

/-
  Helpers: a focus on a behavior, and the actions that it
  expects to be permitted and to be denied.

  The name of a helper is the word for its focus, an
  underscore and the word for its behavior. A name is read
  by that grammar: it is split first, and then the words are
  looked up. No other text names a helper.

  Key definitions include:
    * `Helper`
    * `Helper.name`
    * `Helper.expected`
    * `Helper.denied`
    * `Focus.fullMatch?`
    * `Helper.ofName?`
    * `Helper.resolve`
    * `Helper.all`
    * `Helper.description`
    * `Helper.Likeness`
-/

------------------------------------------------------------
-- Helpers
------------------------------------------------------------

namespace Clearance

/- A focus on a behavior. -/
structure Helper where
  focus : Focus
  behavior : Behavior
  deriving DecidableEq

namespace Helper

/- The name of a helper. -/
def name (helper : Helper) : String :=
  helper.focus.word ++ "_" ++ helper.behavior.word

/- The actions that a helper expects to be permitted. -/
def expected (helper : Helper) : List Action :=
  match helper.focus with
  | .atLeast => helper.behavior.actions
  | .exactly => helper.behavior.actions
  | .allBut => helper.behavior.others

/- The actions that a helper expects to be denied. -/
def denied (helper : Helper) : List Action :=
  match helper.focus with
  | .atLeast => []
  | .exactly => helper.behavior.others
  | .allBut => helper.behavior.actions

/- Every helper, grouped by focus. -/
def all : List Helper :=
  Focus.all.flatMap fun focus =>
    Behavior.all.map fun behavior => ⟨focus, behavior⟩

end Helper

end Clearance

------------------------------------------------------------
-- Names
------------------------------------------------------------

namespace Clearance

/- The behavior for which a word stands. -/
def Behavior.ofWord? (word : List Char) : Option Behavior :=
  Behavior.all.find? fun behavior =>
    behavior.word.toList == word

namespace Focus

/-
  What stands in a text behind the word for a focus and an
  underscore, if it is something and all on one line.
-/
def behind?
    (focus : Focus)
    (text : List Char) : Option (List Char) :=
  ((focus.word.toList ++ ['_']).isPrefixOf? text).filter
    fun rest => rest ≠ [] ∧ '\n' ∉ rest

/-
  Match the whole of a text with the word for a focus, an
  underscore and some more on one line. The answer is the
  focus and what stands behind it. Whether that is a word for
  a behavior is not asked here.
-/
def fullMatch?
    (text : List Char) : Option (Focus × List Char) :=
  all.findSome? fun focus =>
    (focus.behind? text).map fun rest => (focus, rest)

end Focus

namespace Helper

/-
  The helper of a name: the name has to match as a whole, and
  what stands behind the focus has to be a behavior.
-/
def ofName? (name : String) : Option Helper :=
  (Focus.fullMatch? name.toList).bind fun (focus, rest) =>
    (Behavior.ofWord? rest).map fun behavior =>
      ⟨focus, behavior⟩

/- The helper of a name, or the failure to know it. -/
def resolve (name : String) : Except Failure Helper :=
  match ofName? name with
  | some helper => .ok helper
  | none => .error (.unknownHelper name)

end Helper

end Clearance

------------------------------------------------------------
-- Descriptions
------------------------------------------------------------

namespace Clearance

namespace Helper

/- All that is known of a helper, in one line. -/
def description (helper : Helper) : String :=
  "ResolvedBehavior(name=" ++ Text.quote helper.name ++
    ", prefix=<Prefix." ++ helper.focus.label ++ ": " ++
    Text.quote helper.focus.word ++
    ">, behavior=" ++ Text.quote helper.behavior.word ++
    ", actions=" ++ Text.sequence helper.expected ++
    ", negated_actions=" ++ Text.sequence helper.denied ++
    ")"

end Helper

end Clearance

------------------------------------------------------------
-- Comparison
------------------------------------------------------------

namespace Clearance

namespace Helper

/-
  What two helpers have in common: all, the expected actions,
  the denied actions, or each the expected actions that the
  other denies.
-/
structure Likeness where
  equal : Bool
  sameExpected : Bool
  sameDenied : Bool
  opposite : Bool
  deriving DecidableEq

/- Compare two helpers. -/
def likeness
    (left right : Helper) : Likeness where
  equal := left == right
  sameExpected := left.expected == right.expected
  sameDenied := left.denied == right.denied
  opposite :=
    left.expected == right.denied &&
      left.denied == right.expected

end Helper

end Clearance
