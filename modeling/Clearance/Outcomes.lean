import Clearance.Behavior
import Clearance.Vocabulary

/-
  Outcomes by action, and the verdict on them.

  A table of outcomes keeps its actions in the order in which
  they were first recorded. An action that is recorded again
  keeps its place and takes the new outcome.

  Key definitions include:
    * `Outcomes`
    * `Outcomes.record`
    * `Findings`
    * `Findings.permitted`
    * `Findings.forbidden`
    * `Findings.verdict`

  Key theorems include:
    * `Outcomes.keys_put`
-/

------------------------------------------------------------
-- Entries
------------------------------------------------------------

namespace Clearance

namespace Outcomes

/- The actions of the entries, in order. -/
abbrev keys (entries : List (Action × Bool)) : List Action :=
  entries.map Prod.fst

/-
  Set the outcome of an action, in its place if it has one
  and at the end if not.
-/
def put
    (action : Action)
    (outcome : Bool) :
    List (Action × Bool) → List (Action × Bool)
  | [] => [(action, outcome)]
  | entry :: rest =>
    if entry.1 = action then
      (action, outcome) :: rest
    else
      entry :: put action outcome rest

/- Only a new action changes the actions, at the end. -/
theorem keys_put
    (action : Action)
    (outcome : Bool)
    (entries : List (Action × Bool)) :
    keys (put action outcome entries) =
      if action ∈ keys entries then
        keys entries
      else
        keys entries ++ [action] := by
  induction entries with
  | nil =>
    simp [put]
  | cons entry rest ih =>
    by_cases hEntry : entry.1 = action
    · simp [put, hEntry]
    · have hNe : ¬ action = entry.1 :=
        fun hEq => hEntry hEq.symm
      by_cases hRest : action ∈ keys rest
      · simp_all [put]
      · simp_all [put]

/- No action is listed twice after one is set. -/
theorem nodup_keys_put
    (action : Action)
    (outcome : Bool)
    {entries : List (Action × Bool)}
    (hEntries : (keys entries).Nodup) :
    (keys (put action outcome entries)).Nodup := by
  rw [keys_put]
  split
  · exact hEntries
  · next hNew =>
    rw [List.nodup_append]
    refine ⟨hEntries, by simp, ?_⟩
    intro a hA b hB hEq
    simp only [List.mem_singleton] at hB
    subst hB
    subst hEq
    exact hNew hA

end Outcomes

end Clearance

------------------------------------------------------------
-- Outcomes
------------------------------------------------------------

namespace Clearance

/- A table of outcomes, with each action at most once. -/
structure Outcomes where
  entries : List (Action × Bool)
  nodup : (Outcomes.keys entries).Nodup
  deriving DecidableEq

namespace Outcomes

/- The table with no outcome. -/
def empty : Outcomes :=
  ⟨[], List.nodup_nil⟩

/- Record the outcome of an action. -/
def record
    (outcomes : Outcomes)
    (action : Action)
    (outcome : Bool) : Outcomes where
  entries := put action outcome outcomes.entries
  nodup := nodup_keys_put action outcome outcomes.nodup

@[simp] theorem entries_record
    (outcomes : Outcomes)
    (action : Action)
    (outcome : Bool) :
    (outcomes.record action outcome).entries =
      put action outcome outcomes.entries :=
  rfl

/- Is every outcome a permission? -/
def allHold (outcomes : Outcomes) : Bool :=
  outcomes.entries.all Prod.snd

/- Is some outcome a permission? -/
def anyHolds (outcomes : Outcomes) : Bool :=
  outcomes.entries.any Prod.snd

end Outcomes

end Clearance

------------------------------------------------------------
-- Findings
------------------------------------------------------------

namespace Clearance

/-
  The outcomes of the actions expected to be permitted, and
  those of the actions expected to be denied.
-/
structure Findings where
  results : Outcomes
  negated : Outcomes
  deriving DecidableEq

namespace Findings

/- Is everything as expected? -/
def permitted (findings : Findings) : Bool :=
  findings.results.allHold && !findings.negated.anyHolds

/- Is everything opposite to what was expected? -/
def forbidden (findings : Findings) : Bool :=
  !findings.results.anyHolds && findings.negated.allHold

/- The verdict, for which being permitted is tried first. -/
def verdict (findings : Findings) : Verdict :=
  if findings.permitted then
    .permitted
  else if findings.forbidden then
    .forbidden
  else
    .mixed

end Findings

end Clearance
