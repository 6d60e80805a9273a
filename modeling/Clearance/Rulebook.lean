import Clearance.Engine

/-
  Rule engines that are written down: permission by a list of
  actions, by a script of replies, or by a table of rules.

  The state of such an engine is the number of the questions
  that it has been asked, whatever it replied to them.

  Key definitions include:
    * `Rule`
    * `Rulebook`
    * `Rulebook.reply`
    * `Rulebook.engine`
-/

------------------------------------------------------------
-- Rules
------------------------------------------------------------

namespace Clearance

/-
  A reply for the questions with a role, an action and the
  qualified name of a controller; each of the three may be
  left open.
-/
structure Rule where
  role : Option Role
  action : Option Action
  qualifiedName : Option String
  reply : Reply

/- Does a part of a question meet what a rule asks of it? -/
def Rule.meets
    {α : Type}
    [BEq α]
    (wanted : Option α)
    (actual : α) : Bool :=
  match wanted with
  | none => true
  | some value => value == actual

/- Is a rule meant for a question? -/
def Rule.covers
    (rule : Rule)
    (question : Question) : Bool :=
  meets rule.role question.role &&
    meets rule.action question.action &&
    meets rule.qualifiedName
      question.controller.qualifiedName

end Clearance

------------------------------------------------------------
-- Rulebooks
------------------------------------------------------------

namespace Clearance

/- A rule engine that is written down. -/
inductive Rulebook where
  /- Exactly the listed actions are permitted. -/
  | allow (actions : List Action)
  /- The replies come in this order; the last one stays. -/
  | script (first : Reply) (rest : List Reply)
  /- The first rule for the question gives the reply. -/
  | table (rules : List Rule) (fallback : Reply)
  /- There are no rules yet. -/
  | unconfigured

namespace Rulebook

/- The fault of an engine that has no rules yet. -/
def unconfiguredFault : Fault where
  kind := .unimplemented
  text :=
    "No permission check configured; " ++
      "override the 'permission_check' fixture"

/- The reply of a script after a number of questions. -/
def scripted :
    Reply →
    List Reply →
    Nat →
    Reply
  | first, [], _ => first
  | first, _ :: _, 0 => first
  | _, next :: rest, asked + 1 => scripted next rest asked

/-
  The reply to a question, after the given number of earlier
  questions.
-/
def reply
    (rulebook : Rulebook)
    (question : Question)
    (asked : Nat) : Reply :=
  match rulebook with
  | .allow actions =>
    .ok (.flag (actions.contains question.action))
  | .script first rest =>
    scripted first rest asked
  | .table rules fallback =>
    match rules.find? (·.covers question) with
    | some rule => rule.reply
    | none => fallback
  | .unconfigured =>
    .error unconfiguredFault

/- The engine that follows a rulebook. -/
def engine (rulebook : Rulebook) : Engine Nat :=
  fun question asked =>
    (rulebook.reply question asked, asked + 1)

end Rulebook

end Clearance
