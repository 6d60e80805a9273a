import Clearance.Proofs.Findings
import Clearance.Proofs.Recording
import Clearance.Rulebook
import Mathlib.Data.List.Basic

/-
  Engines that follow a policy.

  A policy rules on each question, by a yes, a no or a fault.
  An engine follows it if the ruling can be seen in every
  reply, whatever state the engine is in and whatever value
  it takes for a yes or a no. What such an engine is asked
  then leads to a table that only depends on the actions.

  Key definitions include:
    * `Policy`
    * `Engine.Follows`
    * `Outcomes.ofRule`
    * `Findings.ofRule`

  Key theorems include:
    * `Rulebook.follows`
    * `Interrogation.firstFault?_eq_none_iff`
    * `Outcomes.ofExchanges_eq_ofRule`
    * `Findings.permitted_ofRule_iff`
    * `Findings.forbidden_ofRule_iff`
-/

------------------------------------------------------------
-- Policies
------------------------------------------------------------

namespace Clearance

/- What is ruled on each question: yes, no, or a fault. -/
abbrev Policy := Question → Except Fault Bool

/- Does a policy say yes to a question? -/
def Policy.grants
    (policy : Policy)
    (question : Question) : Bool :=
  match policy question with
  | .ok granted => granted
  | .error _ => false

/- In every state, an engine replies by a policy. -/
def Engine.Follows
    {σ : Type}
    (engine : Engine σ)
    (policy : Policy) : Prop :=
  ∀ question state,
    (engine question state).1.map Value.holds =
      policy question

/- A rulebook that does not count is its own policy. -/
theorem Rulebook.follows
    {rulebook : Rulebook}
    (hSteady :
      ∀ question asked,
        rulebook.reply question asked =
          rulebook.reply question 0) :
    rulebook.engine.Follows fun question =>
      (rulebook.reply question 0).map Value.holds := by
  intro question asked
  rw [engine, hSteady question asked]

end Clearance

------------------------------------------------------------
-- Exchanges
------------------------------------------------------------

namespace Clearance

namespace Exchange

/- The reply of an exchange is by a policy. -/
def Obeys
    (policy : Policy)
    (exchange : Exchange) : Prop :=
  exchange.reply.map Value.holds = policy exchange.question

namespace Obeys

variable {policy : Policy}
variable {exchange : Exchange}

theorem outcome_eq
    (hObeys : exchange.Obeys policy) :
    exchange.outcome = policy.grants exchange.question := by
  rw [Policy.grants, ← hObeys, outcome]
  cases exchange.reply with
  | ok value => rfl
  | error fault => rfl

theorem fault?_eq_none_iff
    (hObeys : exchange.Obeys policy) :
    exchange.fault? = none ↔
      ∃ granted, policy exchange.question = .ok granted := by
  rw [← hObeys, fault?]
  cases exchange.reply with
  | ok value => simp [Except.map]
  | error fault => simp [Except.map]

end Obeys

end Exchange

namespace Interrogation

variable {σ : Type}
variable {engine : Engine σ}
variable {policy : Policy}
variable {questions : List Question}
variable {state last : σ}
variable {exchanges : List Exchange}

/- All replies of an engine are by the policy it follows. -/
theorem obeys
    (hAsked :
      Interrogation engine questions state exchanges last)
    (hFollows : engine.Follows policy) :
    ∀ exchange ∈ exchanges, exchange.Obeys policy := by
  induction hAsked with
  | finished state =>
      simp
  | @answered question _ state _ _ value _ hReply _ ih =>
      have hHead :
          Exchange.Obeys policy ⟨question, .ok value⟩ := by
        have hRuling := hFollows question state
        rw [hReply] at hRuling
        exact hRuling
      exact List.forall_mem_cons.mpr ⟨hHead, ih⟩
  | @stopped question _ state _ fault hReply =>
      have hHead :
          Exchange.Obeys policy ⟨question, .error fault⟩ := by
        have hRuling := hFollows question state
        rw [hReply] at hRuling
        exact hRuling
      exact List.forall_mem_singleton.mpr hHead

/- There is a fault if the policy has one for a question. -/
theorem firstFault?_eq_none_iff
    (hAsked :
      Interrogation engine questions state exchanges last)
    (hFollows : engine.Follows policy) :
    Exchange.firstFault? exchanges = none ↔
      ∀ question ∈ questions,
        ∃ granted, policy question = .ok granted := by
  have hObeys := hAsked.obeys hFollows
  constructor
  · intro hFaultless question hMem
    rw [← hAsked.questions_eq hFaultless] at hMem
    rcases List.mem_map.mp hMem with
      ⟨exchange, hExchange, hQuestion⟩
    rw [← hQuestion]
    exact (hObeys exchange hExchange).fault?_eq_none_iff.mp
      (Exchange.fault?_eq_none_of_firstFault? hFaultless
        hExchange)
  · intro hRuled
    apply List.findSome?_eq_none_iff.mpr
    intro exchange hExchange
    apply (hObeys exchange hExchange).fault?_eq_none_iff.mpr
    exact hRuled exchange.question
      (hAsked.questions_prefix.subset
        (List.mem_map_of_mem hExchange))

end Interrogation

end Clearance

------------------------------------------------------------
-- Tables
------------------------------------------------------------

namespace Clearance

namespace Outcomes

/- Each action occurs once among the distinct ones. -/
theorem nodup_eraseDups
    (actions : List Action) :
    actions.eraseDups.Nodup := by
  induction actions using List.reverseRecOn with
  | nil =>
      exact List.nodup_nil
  | append_singleton actions action ih =>
      rw [eraseDups_concat]
      split
      · exact ih
      · next hNew =>
        apply ih.append (List.nodup_singleton action)
        rw [List.disjoint_singleton, List.mem_eraseDups]
        exact hNew

/- The table of a rule on actions, as they first occur. -/
def ofRule
    (rule : Action → Bool)
    (actions : List Action) : Outcomes where
  entries :=
    actions.eraseDups.map fun action => (action, rule action)
  nodup := by
    simpa [Function.comp_def] using nodup_eraseDups actions

@[simp] theorem entries_ofRule
    (rule : Action → Bool)
    (actions : List Action) :
    (ofRule rule actions).entries =
      actions.eraseDups.map fun action =>
        (action, rule action) :=
  rfl

/- The entries of such a table are what the rule says. -/
theorem forall_mem_ofRule_iff
    (rule : Action → Bool)
    (actions : List Action)
    (outcome : Bool) :
    (∀ entry ∈ (ofRule rule actions).entries,
        entry.2 = outcome) ↔
      ∀ action ∈ actions, rule action = outcome := by
  simp only [entries_ofRule, List.forall_mem_map,
    List.mem_eraseDups]

/- A table without an entry is on no actions. -/
theorem entries_ofRule_eq_nil_iff
    (rule : Action → Bool)
    (actions : List Action) :
    (ofRule rule actions).entries = [] ↔ actions = [] := by
  rw [entries_ofRule, List.map_eq_nil_iff]
  simp only [List.eq_nil_iff_forall_not_mem,
    List.mem_eraseDups]

/- Tables with the same entries are the same. -/
theorem eq_of_entries
    {left right : Outcomes}
    (hEntries : left.entries = right.entries) :
    left = right := by
  rcases left with ⟨entries, nodup⟩
  rcases right with ⟨entries', nodup'⟩
  cases hEntries
  rfl

/- By a rule, an action has the same outcome every time. -/
theorem ofExchanges_eq_ofRule
    {exchanges : List Exchange}
    {rule : Action → Bool}
    (hRule :
      ∀ exchange ∈ exchanges,
        exchange.outcome = rule exchange.action) :
    ofExchanges exchanges =
      ofRule rule (exchanges.map Exchange.action) := by
  have hEntry :
      ∀ entry ∈ (ofExchanges exchanges).entries,
        (entry.1, rule entry.1) = entry := by
    intro entry hMem
    rcases exists_exchange_of_mem hMem with
      ⟨exchange, hExchange, hAction, hOutcome⟩
    rw [← hAction, ← hRule exchange hExchange, hAction,
      hOutcome]
  apply eq_of_entries
  rw [entries_ofRule, ← keys_ofExchanges, keys,
    List.map_map]
  exact
    ((List.map_congr_left hEntry).trans
      (List.map_id' _)).symm

end Outcomes

end Clearance

------------------------------------------------------------
-- Findings
------------------------------------------------------------

namespace Clearance

namespace Findings

/- The findings of a rule on expected and denied actions. -/
def ofRule
    (rule : Action → Bool)
    (expected denied : List Action) : Findings where
  results := .ofRule rule expected
  negated := .ofRule rule denied

variable (rule : Action → Bool)
variable (expected denied : List Action)

theorem permitted_ofRule_iff :
    (ofRule rule expected denied).permitted = true ↔
      (∀ action ∈ expected, rule action = true) ∧
        ∀ action ∈ denied, rule action = false := by
  rw [permitted_iff, ofRule,
    Outcomes.forall_mem_ofRule_iff,
    Outcomes.forall_mem_ofRule_iff]

theorem forbidden_ofRule_iff :
    (ofRule rule expected denied).forbidden = true ↔
      (∀ action ∈ expected, rule action = false) ∧
        ∀ action ∈ denied, rule action = true := by
  rw [forbidden_iff, ofRule,
    Outcomes.forall_mem_ofRule_iff,
    Outcomes.forall_mem_ofRule_iff]

end Findings

end Clearance
