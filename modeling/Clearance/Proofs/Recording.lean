import Clearance.Outcomes
import Clearance.Proofs.Exchange
import Mathlib.Data.List.Induction
import Mathlib.Data.List.Nodup

/-
  Exchanges recorded in a table of outcomes, one after
  another.

  The table lists the actions in the order in which they were
  first asked about, and each with the outcome of the last
  exchange about it.

  Key definitions include:
    * `Outcomes.recordAll`
    * `Outcomes.ofExchanges`
    * `Exchange.IsLastOutcome`
    * `Outcomes.Tabulates`

  Key theorems include:
    * `Outcomes.keys_ofExchanges`
    * `Outcomes.mem_ofExchanges_iff`
    * `Outcomes.entries_ofExchanges`
-/

------------------------------------------------------------
-- Entries
------------------------------------------------------------

namespace Clearance

namespace Outcomes

/- An outcome that is set can be found. -/
theorem mem_put_self
    (action : Action)
    (outcome : Bool)
    (entries : List (Action × Bool)) :
    (action, outcome) ∈ put action outcome entries := by
  induction entries with
  | nil =>
      simp [put]
  | cons entry rest ih =>
      by_cases hEntry : entry.1 = action
      · simp [put, hEntry]
      · simp [put, hEntry, ih]

/- The outcomes of other actions stay. -/
theorem mem_put_of_ne
    {action : Action}
    (outcome : Bool)
    {entries : List (Action × Bool)}
    {entry : Action × Bool}
    (hMem : entry ∈ entries)
    (hNe : entry.1 ≠ action) :
    entry ∈ put action outcome entries := by
  induction entries with
  | nil =>
      simp at hMem
  | cons head rest ih =>
      by_cases hHead : head.1 = action
      · have hRest : entry ∈ rest := by
          rcases List.mem_cons.mp hMem with hEq | hRest
          · subst hEq
            exact absurd hHead hNe
          · exact hRest
        simp [put, hHead, hRest]
      · rcases List.mem_cons.mp hMem with hEq | hRest
        · simp [put, hHead, hEq]
        · simp [put, hHead, ih hRest]

/- The outcome of a new action is put at the end. -/
theorem put_of_notMem
    {action : Action}
    (outcome : Bool)
    {entries : List (Action × Bool)}
    (hNew : action ∉ keys entries) :
    put action outcome entries =
      entries ++ [(action, outcome)] := by
  induction entries with
  | nil =>
      rfl
  | cons entry rest ih =>
      rw [keys, List.map_cons, List.mem_cons,
        not_or] at hNew
      have hEntry : ¬ entry.1 = action :=
        fun hEq => hNew.1 hEq.symm
      rw [put, if_neg hEntry, ih hNew.2, List.cons_append]

/- An action has one outcome in a table. -/
theorem outcome_unique
    (outcomes : Outcomes)
    {action : Action}
    {left right : Bool}
    (hLeft : (action, left) ∈ outcomes.entries)
    (hRight : (action, right) ∈ outcomes.entries) :
    left = right := by
  have hEntry : (action, left) = (action, right) :=
    List.inj_on_of_nodup_map outcomes.nodup
      hLeft hRight rfl
  exact congrArg Prod.snd hEntry

end Outcomes

end Clearance

------------------------------------------------------------
-- Recording
------------------------------------------------------------

namespace Clearance

namespace Outcomes

/- Record the outcomes of exchanges, one after another. -/
def recordAll
    (outcomes : Outcomes)
    (exchanges : List Exchange) : Outcomes :=
  exchanges.foldl
    (fun table exchange =>
      table.record exchange.action exchange.outcome)
    outcomes

/- The table of the outcomes of exchanges. -/
def ofExchanges (exchanges : List Exchange) : Outcomes :=
  empty.recordAll exchanges

@[simp] theorem recordAll_nil
    (outcomes : Outcomes) :
    outcomes.recordAll [] = outcomes :=
  rfl

@[simp] theorem recordAll_cons
    (outcomes : Outcomes)
    (exchange : Exchange)
    (rest : List Exchange) :
    outcomes.recordAll (exchange :: rest) =
      (outcomes.record exchange.action
        exchange.outcome).recordAll rest :=
  rfl

/- The last exchange is recorded last. -/
theorem ofExchanges_concat
    (exchanges : List Exchange)
    (exchange : Exchange) :
    ofExchanges (exchanges ++ [exchange]) =
      (ofExchanges exchanges).record exchange.action
        exchange.outcome := by
  rw [ofExchanges, recordAll, List.foldl_append]
  rfl

/- Only a new action adds to the distinct ones, at the end. -/
theorem eraseDups_concat
    (actions : List Action)
    (action : Action) :
    (actions ++ [action]).eraseDups =
      if action ∈ actions then
        actions.eraseDups
      else
        actions.eraseDups ++ [action] := by
  rw [List.eraseDups_append, List.cons_removeAll]
  by_cases hOld : action ∈ actions
  · simp [hOld]
  · simp [hOld, List.eraseDups_cons]

/- A table lists its actions in the order first asked. -/
theorem keys_ofExchanges
    (exchanges : List Exchange) :
    keys (ofExchanges exchanges).entries =
      (exchanges.map Exchange.action).eraseDups := by
  induction exchanges using List.reverseRecOn with
  | nil =>
      rfl
  | append_singleton exchanges exchange ih =>
      rw [ofExchanges_concat, entries_record, keys_put, ih,
        List.map_append, List.map_singleton,
        eraseDups_concat]
      simp only [List.mem_eraseDups]

/- An outcome stays until its action is asked about again. -/
theorem mem_recordAll_of_mem
    {outcomes : Outcomes}
    {exchanges : List Exchange}
    {entry : Action × Bool}
    (hMem : entry ∈ outcomes.entries)
    (hOthers :
      ∀ exchange ∈ exchanges, exchange.action ≠ entry.1) :
    entry ∈ (outcomes.recordAll exchanges).entries := by
  induction exchanges generalizing outcomes with
  | nil =>
      exact hMem
  | cons exchange rest ih =>
      have hHead : entry.1 ≠ exchange.action :=
        (hOthers exchange List.mem_cons_self).symm
      rw [recordAll_cons]
      apply ih
      · exact mem_put_of_ne exchange.outcome hMem hHead
      · intro other hOther
        exact hOthers other (List.mem_cons_of_mem _ hOther)

end Outcomes

end Clearance

------------------------------------------------------------
-- Last Outcomes
------------------------------------------------------------

namespace Clearance

/- The last exchange about an action had an outcome. -/
def Exchange.IsLastOutcome
    (exchanges : List Exchange)
    (action : Action)
    (outcome : Bool) : Prop :=
  ∃ before exchange later,
    exchanges = before ++ exchange :: later ∧
      exchange.action = action ∧
        exchange.outcome = outcome ∧
          ∀ other ∈ later, other.action ≠ action

/- There is a last exchange about each action asked about. -/
theorem Exchange.exists_isLastOutcome
    {exchanges : List Exchange}
    {action : Action}
    (hMem : action ∈ exchanges.map Exchange.action) :
    ∃ outcome, IsLastOutcome exchanges action outcome := by
  induction exchanges with
  | nil =>
      simp at hMem
  | cons exchange rest ih =>
      by_cases hRest : action ∈ rest.map Exchange.action
      · rcases ih hRest with
          ⟨outcome, before, last, later, hSplit, hLast⟩
        exact ⟨outcome, exchange :: before, last, later,
          by rw [hSplit, List.cons_append], hLast⟩
      · have hHead : exchange.action = action := by
          rcases List.mem_cons.mp hMem with hEq | hTail
          · exact hEq.symm
          · exact absurd hTail hRest
        refine ⟨exchange.outcome, [], exchange, rest, rfl,
          hHead, rfl, ?_⟩
        intro other hOther hEq
        exact hRest
          (List.mem_map.mpr ⟨other, hOther, hEq⟩)

namespace Outcomes

/- The last outcome of an action is the one in the table. -/
theorem mem_ofExchanges_of_isLastOutcome
    {exchanges : List Exchange}
    {action : Action}
    {outcome : Bool}
    (hLast :
      Exchange.IsLastOutcome exchanges action outcome) :
    (action, outcome) ∈
      (ofExchanges exchanges).entries := by
  rcases hLast with
    ⟨before, exchange, later, hSplit, hAction, hOutcome,
      hLater⟩
  subst hSplit hAction hOutcome
  rw [ofExchanges, recordAll, List.foldl_append,
    List.foldl_cons]
  exact mem_recordAll_of_mem (mem_put_self _ _ _) hLater

/- A table holds exactly the last outcomes. -/
theorem mem_ofExchanges_iff
    (exchanges : List Exchange)
    (action : Action)
    (outcome : Bool) :
    (action, outcome) ∈ (ofExchanges exchanges).entries ↔
      Exchange.IsLastOutcome exchanges action outcome := by
  constructor
  · intro hMem
    have hAsked :
        action ∈ exchanges.map Exchange.action := by
      rw [← List.mem_eraseDups, ← keys_ofExchanges]
      exact List.mem_map.mpr ⟨_, hMem, rfl⟩
    rcases Exchange.exists_isLastOutcome hAsked with
      ⟨last, hLast⟩
    have hEq : last = outcome :=
      outcome_unique _
        (mem_ofExchanges_of_isLastOutcome hLast) hMem
    rw [← hEq]
    exact hLast
  · exact mem_ofExchanges_of_isLastOutcome

/- Each outcome in a table is that of an exchange. -/
theorem exists_exchange_of_mem
    {exchanges : List Exchange}
    {entry : Action × Bool}
    (hMem : entry ∈ (ofExchanges exchanges).entries) :
    ∃ exchange ∈ exchanges,
      exchange.action = entry.1 ∧
        exchange.outcome = entry.2 := by
  rcases (mem_ofExchanges_iff exchanges entry.1
      entry.2).mp hMem with
    ⟨before, exchange, later, hSplit, hAction, hOutcome, _⟩
  refine ⟨exchange, ?_, hAction, hOutcome⟩
  rw [hSplit]
  exact List.mem_append_right before List.mem_cons_self

/-
  A table lists actions in the order in which they first
  occur, each with its last outcome among exchanges.
-/
structure Tabulates
    (outcomes : Outcomes)
    (actions : List Action)
    (exchanges : List Exchange) : Prop where
  keys_eq : keys outcomes.entries = actions.eraseDups
  mem_iff :
    ∀ action outcome,
      (action, outcome) ∈ outcomes.entries ↔
        Exchange.IsLastOutcome exchanges action outcome

/- The table of exchanges tabulates them. -/
theorem tabulates_ofExchanges
    {exchanges : List Exchange}
    {actions : List Action}
    (hActions : exchanges.map Exchange.action = actions) :
    (ofExchanges exchanges).Tabulates actions
      exchanges where
  keys_eq := by
    rw [keys_ofExchanges, hActions]
  mem_iff := mem_ofExchanges_iff exchanges

end Outcomes

end Clearance

------------------------------------------------------------
-- Actions Asked Once
------------------------------------------------------------

namespace Clearance

namespace Outcomes

/- If no action is asked about twice, no outcome is lost. -/
theorem entries_ofExchanges
    {exchanges : List Exchange}
    (hOnce : (exchanges.map Exchange.action).Nodup) :
    (ofExchanges exchanges).entries =
      exchanges.map fun exchange =>
        (exchange.action, exchange.outcome) := by
  induction exchanges using List.reverseRecOn with
  | nil =>
      rfl
  | append_singleton exchanges exchange ih =>
      rw [List.map_append, List.nodup_append] at hOnce
      rcases hOnce with ⟨hInit, _, hApart⟩
      have hNew :
          exchange.action ∉
            keys (ofExchanges exchanges).entries := by
        rw [keys_ofExchanges, List.mem_eraseDups]
        intro hOld
        exact hApart _ hOld _ (by simp) rfl
      rw [ofExchanges_concat, entries_record,
        put_of_notMem _ hNew, ih hInit, List.map_append,
        List.map_singleton]

end Outcomes

end Clearance
