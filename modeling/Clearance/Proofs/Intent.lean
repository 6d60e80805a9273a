import Clearance.Expectation
import Mathlib.Data.List.Nodup

/-
  The actions of an intent.

  If the parts of an intent belong together, then no action
  is listed twice, be it among the expected actions, among
  the denied ones or on both sides, and there is some action
  to ask about.

  Key definitions include:
    * `Intent.Formed`

  Key theorems include:
    * `Behavior.disjoint_others`
    * `Helper.nodup_actions`
    * `Intent.Formed.nodup_actions`
    * `Intent.Formed.actions_ne_nil`
-/

------------------------------------------------------------
-- Behaviors
------------------------------------------------------------

namespace Clearance

namespace Behavior

theorem nodup_actions
    (behavior : Behavior) :
    behavior.actions.Nodup := by
  cases behavior <;> decide

theorem actions_ne_nil
    (behavior : Behavior) :
    behavior.actions ≠ [] := by
  cases behavior <;> decide

theorem nodup_others
    (behavior : Behavior) :
    behavior.others.Nodup :=
  manage.nodup_actions.filter _

/- The actions that are left out are other actions. -/
theorem disjoint_others
    (behavior : Behavior) :
    behavior.actions.Disjoint behavior.others := by
  intro action hMem hOther
  have hNew := (List.mem_filter.mp hOther).2
  simp [hMem] at hNew

end Behavior

end Clearance

------------------------------------------------------------
-- Helpers
------------------------------------------------------------

namespace Clearance

namespace Helper

/- A helper lists no action twice. -/
theorem nodup_actions
    (helper : Helper) :
    (helper.expected ++ helper.denied).Nodup := by
  have hActions := helper.behavior.nodup_actions
  have hOthers := helper.behavior.nodup_others
  have hDisjoint := helper.behavior.disjoint_others
  unfold expected denied
  cases helper.focus with
  | atLeast =>
      rw [List.append_nil]
      exact hActions
  | exactly =>
      exact hActions.append hOthers hDisjoint
  | allBut =>
      exact List.nodup_append_comm.mp
        (hActions.append hOthers hDisjoint)

/- A helper lists some action. -/
theorem actions_ne_nil
    (helper : Helper) :
    helper.expected ++ helper.denied ≠ [] := by
  have hActions := helper.behavior.actions_ne_nil
  unfold expected denied
  cases helper.focus with
  | atLeast => simp [hActions]
  | exactly => simp [hActions]
  | allBut => simp [hActions]

end Helper

end Clearance

------------------------------------------------------------
-- Intents
------------------------------------------------------------

namespace Clearance

namespace Intent

/-
  An intent whose parts belong together: all of them come
  from one action, or all of them come from one helper.
-/
inductive Formed : Intent → Prop where
  | action (name : Action) : Formed (.action name)
  | helper (chosen : Helper) : Formed (.helper chosen)

namespace Formed

variable {intent : Intent}

/- No action is listed twice. -/
theorem nodup_actions
    (hFormed : intent.Formed) :
    (intent.expected ++ intent.denied).Nodup := by
  cases hFormed with
  | action name => exact List.nodup_singleton name
  | helper chosen => exact chosen.nodup_actions

/- Some action is listed. -/
theorem actions_ne_nil
    (hFormed : intent.Formed) :
    intent.expected ++ intent.denied ≠ [] := by
  cases hFormed with
  | action name => exact List.cons_ne_nil name []
  | helper chosen => exact chosen.actions_ne_nil

end Formed

end Intent

end Clearance
