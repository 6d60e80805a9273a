import Clearance.Proofs.Audit.History
import Clearance.Proofs.Expectation.Turning
import Clearance.Proofs.Helper

/-
  How the parts of an expectation fit together.

  Every step keeps the parts of the intent together, and the
  privilege together with the audit. An audit asks about no
  action twice, so that whatever tables it holds list just the
  actions of its privilege, in their order, be they from one
  run or from several.

  Key definitions include:
    * `Privilege.Sound`
    * `Audit.Aligned`
    * `Expectation.Paired`
    * `Expectation.Coherent`

  Key theorems include:
    * `Audit.Ran.aligned`
    * `Expectation.coherent_step`
    * `Expectation.coherent_reached`
    * `Expectation.parts_after_history`
-/

------------------------------------------------------------
-- Privileges
------------------------------------------------------------

namespace Clearance

/-
  No action is listed twice, be it on one side or on both,
  and some action is listed.
-/
structure Privilege.Sound (privilege : Privilege) : Prop where
  nodup_expected : privilege.expected.Nodup
  nodup_denied : privilege.denied.Nodup
  disjoint : privilege.expected.Disjoint privilege.denied
  not_empty :
    ¬ (privilege.expected = [] ∧ privilege.denied = [])

/- A formed intent makes a sound privilege. -/
theorem Expectation.sound_privilegeFor
    {expectation : Expectation}
    (target : Target)
    (hFormed : expectation.intent.Formed) :
    (expectation.privilegeFor target).Sound where
  nodup_expected := hFormed.nodup_actions.of_append_left
  nodup_denied := hFormed.nodup_actions.of_append_right
  disjoint :=
    List.disjoint_of_nodup_append hFormed.nodup_actions
  not_empty := by
    rw [← List.append_eq_nil_iff]
    exact hFormed.actions_ne_nil

end Clearance

------------------------------------------------------------
-- Tables And Privileges
------------------------------------------------------------

namespace Clearance

/- Without a fault, distinct actions are listed in order. -/
theorem Outcomes.keys_ofExchanges_of_faultless
    {σ : Type}
    {engine : Engine σ}
    {privilege : Privilege}
    {actions : List Action}
    {state last : σ}
    {asked : List Exchange}
    (hAsked :
      Interrogation engine
        (actions.map privilege.question) state asked last)
    (hFaultless : Exchange.firstFault? asked = none)
    (hOnce : actions.Nodup) :
    keys (ofExchanges asked).entries = actions := by
  have hActions : asked.map Exchange.action = actions :=
    Privilege.actions_of_questions
      (hAsked.questions_eq hFaultless)
  rw [← hActions] at hOnce
  rw [entries_ofExchanges hOnce, keys, List.map_map,
    ← hActions]
  rfl

namespace Audit

variable {σ : Type}

/- The tables of an audit list the actions it asks about. -/
structure Aligned (audit : Audit) : Prop where
  results_keys :
    ∀ results, audit.results = some results →
      Outcomes.keys results.entries =
        audit.privilege.expected
  negated_keys :
    ∀ negated, audit.negated = some negated →
      Outcomes.keys negated.entries =
        audit.privilege.denied

/- A new audit has no tables. -/
theorem aligned_start
    (privilege : Privilege) :
    (start privilege).Aligned where
  results_keys := by simp [start]
  negated_keys := by simp [start]

/- A table on the expected actions may be kept. -/
theorem Aligned.keepResults
    {audit : Audit}
    {results : Outcomes}
    (hAligned : audit.Aligned)
    (hKeys :
      Outcomes.keys results.entries =
        audit.privilege.expected) :
    (audit.keepResults results).Aligned where
  results_keys := by
    intro kept hKept
    cases hKept
    exact hKeys
  negated_keys := hAligned.negated_keys

/- So may one on the denied actions. -/
theorem Aligned.keepNegated
    {audit : Audit}
    {negated : Outcomes}
    (hAligned : audit.Aligned)
    (hKeys :
      Outcomes.keys negated.entries =
        audit.privilege.denied) :
    (audit.keepNegated negated).Aligned where
  results_keys := hAligned.results_keys
  negated_keys := by
    intro kept hKept
    cases hKept
    exact hKeys

/- What is read are the tables that are held. -/
theorem read_eq_ok_iff
    {audit : Audit}
    {findings : Findings} :
    audit.read = .ok findings ↔
      audit.results = some findings.results ∧
        audit.negated = some findings.negated := by
  rcases audit with ⟨privilege, results, negated⟩
  rcases findings with ⟨left, right⟩
  cases results with
  | none => simp [read, Audit.findings]
  | some results =>
      cases negated with
      | none => simp [read, Audit.findings]
      | some negated => simp [read, Audit.findings]

/- Every way of a run keeps the tables aligned. -/
theorem Ran.aligned
    {engine : Engine σ}
    {audit after : Audit}
    {state last : σ}
    {asked : List Exchange}
    {result : Except Failure Findings}
    (hRan : Ran engine audit state asked result last after)
    (hSound : audit.privilege.Sound)
    (hAligned : audit.Aligned) :
    after.Aligned := by
  cases hRan with
  | stoppedAtExpected hAsked hFault =>
      exact hAligned
  | stoppedAtDenied hFirst hFaultless hSecond hFault =>
      apply hAligned.keepResults
      exact Outcomes.keys_ofExchanges_of_faultless hFirst
        hFaultless hSound.nodup_expected
  | completed hFirst hFaultless hSecond hFaultless' =>
      apply (hAligned.keepResults _).keepNegated
      · exact Outcomes.keys_ofExchanges_of_faultless hSecond
          hFaultless' hSound.nodup_denied
      · exact Outcomes.keys_ofExchanges_of_faultless hFirst
          hFaultless hSound.nodup_expected

variable (engine : Engine σ)
variable (threshold : Level)
variable (audit : Audit)
variable (call : Call)
variable (state : σ)

/- No call changes the privilege. -/
theorem privilege_perform :
    (audit.perform engine threshold call
        state).2.privilege = audit.privilege := by
  cases call with
  | read reading => rw [perform_read]
  | run =>
      exact (run_ran engine threshold audit
        state).privilege_eq

/- Every call keeps the tables aligned. -/
theorem aligned_perform
    (hSound : audit.privilege.Sound)
    (hAligned : audit.Aligned) :
    (audit.perform engine threshold call
      state).2.Aligned := by
  cases call with
  | read reading =>
      rw [perform_read]
      exact hAligned
  | run =>
      exact (run_ran engine threshold audit state).aligned
        hSound hAligned

end Audit

end Clearance

------------------------------------------------------------
-- Coherent Expectations
------------------------------------------------------------

namespace Clearance

namespace Expectation

variable {σ : Type}

/-
  There are a privilege of the role and an audit of just that
  privilege, or there is none of the two.
-/
inductive Paired
    (role : Role) :
    Option Privilege → Option Audit → Prop where
  | neither : Paired role none none
  | both
      {privilege : Privilege}
      {audit : Audit}
      (hPrivilege : audit.privilege = privilege)
      (hRole : privilege.role = role)
      (hSound : privilege.Sound)
      (hAligned : audit.Aligned) :
    Paired role (some privilege) (some audit)

/- The parts of an expectation fit together. -/
structure Coherent (expectation : Expectation) : Prop where
  formed : expectation.intent.Formed
  paired :
    Paired expectation.role expectation.privilege
      expectation.audit

theorem coherent_fresh
    (role : Role) :
    (fresh role).Coherent where
  formed := .action "index"
  paired := .neither

variable (engine : Engine σ)
variable (threshold : Level)

/- An evaluation pairs its own privilege and audit. -/
theorem paired_evaluate
    {expectation : Expectation}
    (target : Target)
    (state : σ)
    (hFormed : expectation.intent.Formed) :
    Paired expectation.role
      (some (expectation.privilegeFor target))
      (some
        ((Audit.start (expectation.privilegeFor target)).run
          engine threshold state).2) := by
  have hSound := sound_privilegeFor target hFormed
  have hRan :=
    Audit.run_ran engine threshold
      (Audit.start (expectation.privilegeFor target)) state
  exact .both hRan.privilege_eq rfl hSound
    (hRan.aligned hSound (Audit.aligned_start _))

/- A call leaves the audit with its privilege. -/
theorem Paired.perform
    {role : Role}
    {privilege : Option Privilege}
    {audit : Audit}
    (hPaired : Paired role privilege (some audit))
    (call : Audit.Call)
    (state : σ) :
    Paired role privilege
      (some (audit.perform engine threshold call
        state).2) := by
  cases hPaired with
  | both hPrivilege hRole hSound hAligned =>
      subst hPrivilege
      exact .both
        (audit.privilege_perform engine threshold call state)
        hRole hSound
        (audit.aligned_perform engine threshold call state
          hSound hAligned)

/- Every step keeps the parts together. -/
theorem coherent_step
    (expectation : Expectation)
    (taken : Step)
    (state : σ)
    (hCoherent : expectation.Coherent) :
    (expectation.step engine threshold taken
      state).2.Coherent := by
  have hBecame :=
    step_became engine threshold expectation taken state
  generalize (expectation.step engine threshold taken
    state).2 = after at hBecame
  cases hBecame with
  | turned hTurned =>
      exact ⟨formed_of_turned hTurned, hCoherent.paired⟩
  | evaluated purpose target =>
      exact ⟨hCoherent.formed,
        paired_evaluate engine threshold target state
          hCoherent.formed⟩
  | called call hAudit =>
      have hPaired := hCoherent.paired
      rw [hAudit] at hPaired
      exact ⟨hCoherent.formed,
        hPaired.perform engine threshold call state⟩
  | kept hTurned hEvaluate hCall =>
      exact hCoherent

/- So does a history. -/
theorem coherent_reached
    (role : Role)
    (start : σ)
    (history : List (Occurrence Step σ)) :
    (reached engine threshold role start
      history).1.Coherent :=
  History.invariant (step engine threshold)
    (coherent_step engine threshold) history
    (coherent_fresh role)

/-
  After any history, the intent comes from one action or from
  a helper that is known by its name. The privilege and the
  audit are there together or not at all. If they are, the
  audit is of that privilege, which is of the role of the
  expectation, lists no action twice and is not empty; and
  what can be read are tables on just its actions, in order.
-/
theorem parts_after_history
    (role : Role)
    (start : σ)
    (history : List (Occurrence Step σ)) :
    let now :=
      (reached engine threshold role start history).1
    let intent := now.intent
    ((intent.helper? = none ∧
        ∃ action,
          intent.action? = some action ∧
            intent.focus = .atLeast ∧
            intent.expected = [action] ∧
            intent.denied = []) ∨
      ∃ helper,
        intent.helper? = some helper ∧
          Helper.resolve helper.name = .ok helper ∧
          intent.action? = none ∧
          intent.focus = helper.focus ∧
          intent.expected = helper.expected ∧
          intent.denied = helper.denied) ∧
      ((now.privilege = none ∧ now.audit = none) ∨
        ∃ privilege audit,
          now.privilege = some privilege ∧
            now.audit = some audit ∧
            audit.privilege = privilege ∧
            privilege.role = now.role ∧
            privilege.expected.Nodup ∧
            privilege.denied.Nodup ∧
            privilege.expected.Disjoint privilege.denied ∧
            ¬ (privilege.expected = [] ∧
              privilege.denied = []) ∧
            ∀ findings, audit.read = .ok findings →
              Outcomes.keys findings.results.entries =
                  privilege.expected ∧
                Outcomes.keys findings.negated.entries =
                  privilege.denied) := by
  intro now intent
  have hCoherent : now.Coherent :=
    coherent_reached engine threshold role start history
  constructor
  · have hFormed : intent.Formed := hCoherent.formed
    clear_value intent
    cases hFormed with
    | action name =>
        exact Or.inl ⟨rfl, name, rfl, rfl, rfl, rfl⟩
    | helper chosen =>
        exact Or.inr ⟨chosen, rfl,
          Helper.resolve_eq_ok_iff.mpr rfl, rfl, rfl, rfl,
          rfl⟩
  · have hPaired := hCoherent.paired
    generalize now.privilege = privilege? at hPaired ⊢
    generalize now.audit = audit? at hPaired ⊢
    cases hPaired with
    | neither =>
        exact Or.inl ⟨rfl, rfl⟩
    | @both privilege audit hPrivilege hRole hSound
        hAligned =>
        refine Or.inr ⟨privilege, audit, rfl, rfl, hPrivilege,
          hRole, hSound.nodup_expected, hSound.nodup_denied,
          hSound.disjoint, hSound.not_empty, ?_⟩
        intro findings hRead
        rcases Audit.read_eq_ok_iff.mp hRead with
          ⟨hResults, hNegated⟩
        rw [← hPrivilege]
        exact ⟨hAligned.results_keys _ hResults,
          hAligned.negated_keys _ hNegated⟩

end Expectation

end Clearance
