import Clearance.Failure

/-
  Controllers, and the things in front of which a permission
  is asked for.

  Key definitions include:
    * `Value`
    * `Value.isZero`
    * `Value.holds`
    * `Controller`
    * `Target`
    * `Target.controller`
-/

------------------------------------------------------------
-- Values
------------------------------------------------------------

namespace Clearance

/-
  Plain data. A number is a whole number of units, with the
  given count of decimal places. It is an integer if it has
  no places, and a binary number of double precision if it
  has some.
-/
inductive Value where
  | null
  | flag (value : Bool)
  | number (units : Int) (places : Nat)
  | text (value : String)
  | list (items : List Value)
  | record (fields : List (String × Value))

namespace Value

/-
  How often half of the least positive number of double
  precision goes into one.
-/
@[irreducible]
def halvesInOne : Nat :=
  Nat.pow 2 1075

/-
  Is a number zero? An integer is exact. In double precision,
  a number is also zero if it is at most half of the least
  positive one.
-/
def isZero (units : Int) : Nat → Bool
  | 0 =>
    units == 0
  | places =>
    units.natAbs * halvesInOne ≤ Nat.pow 10 places

/-
  Does a value stand for yes? Null, false, zero and whatever
  is empty stand for no, and all else for yes.
-/
def holds : Value → Bool
  | .null => false
  | .flag value => value
  | .number units places => !isZero units places
  | .text value => value != ""
  | .list items => !items.isEmpty
  | .record fields => !fields.isEmpty

/- The name of the class of a value. -/
def className : Value → String
  | .null => "NoneType"
  | .flag _ => "bool"
  | .number _ 0 => "int"
  | .number _ _ => "float"
  | .text _ => "str"
  | .list _ => "list"
  | .record _ => "dict"

end Value

end Clearance

------------------------------------------------------------
-- Controllers
------------------------------------------------------------

namespace Clearance

/-
  A class whose actions need permission, by its two names.
  One name need not be a part of the other.
-/
structure Controller where
  shortName : String
  qualifiedName : String
  deriving DecidableEq

/-
  What a permission is asked for: a controller itself, an
  instance of one, or a plain value.
-/
inductive Target where
  | itself (controller : Controller)
  | instanceOf (controller : Controller)
  | plain (value : Value)

namespace Target

/-
  The controller that stands for a target. The class of a
  plain value has one name only.
-/
def controller : Target → Controller
  | .itself controller => controller
  | .instanceOf controller => controller
  | .plain value => ⟨value.className, value.className⟩

end Target

end Clearance
