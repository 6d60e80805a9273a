/-
  Behaviors and the actions that they stand for.

  A behavior names a group of actions on a controller. The
  behavior `manage` stands for every action, and each of the
  others for some of them.

  Key definitions include:
    * `Role`
    * `Action`
    * `Behavior`
    * `Behavior.all`
    * `Behavior.word`
    * `Behavior.actions`
    * `Behavior.others`
-/

------------------------------------------------------------
-- Roles And Actions
------------------------------------------------------------

namespace Clearance

/- Who asks for permission. -/
abbrev Role := String

/- What permission is asked for. -/
abbrev Action := String

end Clearance

------------------------------------------------------------
-- Behaviors
------------------------------------------------------------

namespace Clearance

/- A named group of actions. -/
inductive Behavior where
  | read
  | create
  | update
  | delete
  | manage
  deriving DecidableEq

namespace Behavior

/- Every behavior, in the order in which they are listed. -/
def all : List Behavior :=
  [.read, .create, .update, .delete, .manage]

/- The word for a behavior in the name of a helper. -/
def word : Behavior → String
  | .read => "read"
  | .create => "create"
  | .update => "update"
  | .delete => "delete"
  | .manage => "manage"

/- The actions that a behavior stands for, in order. -/
def actions : Behavior → List Action
  | .read => ["index", "show"]
  | .create => ["new", "create"]
  | .update => ["edit", "update"]
  | .delete => ["destroy"]
  | .manage =>
    ["index", "show", "new", "create", "edit", "update",
      "destroy"]

/- The actions that a behavior leaves out, in order. -/
def others (behavior : Behavior) : List Action :=
  manage.actions.filter fun action =>
    !behavior.actions.contains action

end Behavior

end Clearance
