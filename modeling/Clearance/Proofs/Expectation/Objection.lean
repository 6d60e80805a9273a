import Clearance.Proofs.Expectation.Failing
import Clearance.Proofs.Expectation.Turning
import Clearance.Proofs.Findings

/-
  What an assertion that fails has to show.

  A breach of a permission is a no to an expected action or
  a yes to a denied one. Findings without a breach are those
  of a permission. Those of a prohibition are the findings
  which, seen from the other side, have no breach, unless
  there is nothing to find; and an expectation always has
  some action to ask about. So an assertion that fails can
  show a breach, and what it shows was found in that step.

  Key definitions include:
    * `Findings.Breach`
    * `Expectation.Grounded`

  Key theorems include:
    * `Findings.exists_breach_of_verdict`
    * `Findings.exists_breach_opposite_of_verdict`
    * `Expectation.evaluate_of_faultless`
    * `Expectation.shows_account`
    * `Expectation.unmet_assertion_shows_breach`
-/

------------------------------------------------------------
-- Breaches
------------------------------------------------------------

namespace Clearance

namespace Findings

/- A no to an expected action, or a yes to a denied one. -/
def Breach
    (findings : Findings)
    (entry : Action × Bool) : Prop :=
  (entry ∈ findings.results.entries ∧ entry.2 = false) ∨
    (entry ∈ findings.negated.entries ∧ entry.2 = true)

variable {findings : Findings}

/- A breach is an entry of one of the tables. -/
theorem Breach.mem_or_mem
    {entry : Action × Bool}
    (hBreach : findings.Breach entry) :
    entry ∈ findings.results.entries ∨
      entry ∈ findings.negated.entries := by
  rcases hBreach with ⟨hMem, _⟩ | ⟨hMem, _⟩
  · exact Or.inl hMem
  · exact Or.inr hMem

/- Permission is the lack of any breach. -/
theorem permitted_iff_no_breach :
    findings.permitted = true ↔
      ∀ entry, ¬ findings.Breach entry := by
  rw [permitted_iff]
  constructor
  · rintro ⟨hYes, hNo⟩ entry hBreach
    rcases hBreach with ⟨hMem, hFalse⟩ | ⟨hMem, hTrue⟩
    · have hBoth := hFalse.symm.trans (hYes entry hMem)
      cases hBoth
    · have hBoth := hTrue.symm.trans (hNo entry hMem)
      cases hBoth
  · intro hNone
    constructor
    · intro entry hMem
      by_contra hOutcome
      exact hNone entry
        (Or.inl ⟨hMem, eq_false_of_ne_true hOutcome⟩)
    · intro entry hMem
      by_contra hOutcome
      exact hNone entry
        (Or.inr ⟨hMem, eq_true_of_ne_false hOutcome⟩)

/- Unless the verdict is permission, there is a breach. -/
theorem exists_breach_of_verdict
    (hVerdict : findings.verdict ≠ .permitted) :
    ∃ entry, findings.Breach entry := by
  by_contra hNone
  apply hVerdict
  apply findings.verdict_eq_permitted_iff.mpr
  exact permitted_iff_no_breach.mpr (not_exists.mp hNone)

/-
  Unless the verdict is prohibition, the other side has a
  breach. With nothing to find there would be none, and still
  the verdict would be permission.
-/
theorem exists_breach_opposite_of_verdict
    (hSome :
      findings.results.entries ≠ [] ∨
        findings.negated.entries ≠ [])
    (hVerdict : findings.verdict ≠ .forbidden) :
    ∃ entry, findings.opposite.Breach entry := by
  apply exists_breach_of_verdict
  rw [verdict_opposite hSome]
  intro hOpposite
  exact hVerdict (Verdict.opposite_inj.mp hOpposite)

end Findings

end Clearance

------------------------------------------------------------
-- Findings Of An Evaluation
------------------------------------------------------------

namespace Clearance

/- A table of some exchanges has some entry. -/
theorem Outcomes.entries_ofExchanges_ne_nil
    {exchanges : List Exchange}
    (hSome : exchanges ≠ []) :
    (ofExchanges exchanges).entries ≠ [] := by
  rcases List.exists_mem_of_ne_nil exchanges hSome with
    ⟨exchange, hMem⟩
  rcases Exchange.exists_isLastOutcome
      (List.mem_map_of_mem hMem) with
    ⟨outcome, hLast⟩
  exact List.ne_nil_of_mem
    (mem_ofExchanges_of_isLastOutcome hLast)

/- If exchanges are split, one of the tables has some entry. -/
theorem Outcomes.entries_ne_nil_of_append
    {first second : List Exchange}
    (hSome : first ++ second ≠ []) :
    (ofExchanges first).entries ≠ [] ∨
      (ofExchanges second).entries ≠ [] := by
  by_cases hFirst : first = []
  · rw [hFirst, List.nil_append] at hSome
    exact Or.inr (entries_ofExchanges_ne_nil hSome)
  · exact Or.inl (entries_ofExchanges_ne_nil hFirst)

namespace Expectation

variable {σ : Type}

/-
  Every entry was found by an exchange on a privilege: the
  question was about the action, and the reply was a value
  that stands for the outcome.
-/
def Grounded
    (privilege : Privilege)
    (asked : List Exchange)
    (findings : Findings) : Prop :=
  ∀ entry ∈
      findings.results.entries ++ findings.negated.entries,
    ∃ exchange ∈ asked,
      exchange.question = privilege.question entry.1 ∧
        exchange.reply.map Value.holds = .ok entry.2

/- Tables of exchanges without a fault are found by them. -/
theorem grounded_ofExchanges
    {privilege : Privilege}
    {first second : List Exchange}
    (hQuestion :
      ∀ exchange ∈ first ++ second,
        exchange.question =
          privilege.question exchange.action)
    (hFaultless :
      ∀ exchange ∈ first ++ second,
        exchange.fault? = none) :
    Grounded privilege (first ++ second)
      ⟨.ofExchanges first, .ofExchanges second⟩ := by
  have hShown (exchange : Exchange)
      (hAsked : exchange ∈ first ++ second) :
      exchange.question =
          privilege.question exchange.action ∧
        exchange.reply.map Value.holds =
          .ok exchange.outcome :=
    ⟨hQuestion exchange hAsked,
      Exchange.holds_reply (hFaultless exchange hAsked)⟩
  intro entry hMem
  rcases List.mem_append.mp hMem with hResults | hNegated
  · rcases Outcomes.exists_exchange_of_mem hResults with
      ⟨exchange, hFirst, hAction, hOutcome⟩
    have hAsked := List.mem_append_left second hFirst
    rw [← hAction, ← hOutcome]
    exact ⟨exchange, hAsked, hShown exchange hAsked⟩
  · rcases Outcomes.exists_exchange_of_mem hNegated with
      ⟨exchange, hSecond, hAction, hOutcome⟩
    have hAsked := List.mem_append_right first hSecond
    rw [← hAction, ← hOutcome]
    exact ⟨exchange, hAsked, hShown exchange hAsked⟩

/-
  An evaluation without a fault finds something, all of it by
  what it asked, and the reports on it are on that.
-/
theorem evaluate_of_faultless
    {engine : Engine σ}
    {threshold : Level}
    {expectation : Expectation}
    {target : Target}
    {state : σ}
    (hFormed : expectation.intent.Formed)
    (hFaultless :
      ∀ exchange ∈
          Event.exchanges
            (expectation.evaluate engine threshold target
              state).1.events,
        exchange.fault? = none) :
    let evaluated :=
      expectation.evaluate engine threshold target state
    ∃ findings,
      evaluated.1.result = .ok findings.verdict ∧
        (findings.results.entries ≠ [] ∨
          findings.negated.entries ≠ []) ∧
        Grounded (expectation.privilegeFor target)
          (Event.exchanges evaluated.1.events) findings ∧
        ∀ opening,
          evaluated.2.report opening =
            .ok
              (opening ++
                account target.controller
                  expectation.description findings) := by
  intro evaluated
  have hAsked :=
    evaluate_interrogation engine threshold expectation
      target state
  rcases evaluate_evaluated engine threshold expectation
      target state with
    ⟨audit, hAudit, hEvaluated⟩
  generalize Event.exchanges
    (expectation.evaluate engine threshold target
      state).1.events = exchanges at *
  generalize evaluated.1.result = result at *
  cases hEvaluated with
  | failed hFault =>
      have hNone :=
        List.findSome?_eq_none_iff.mpr hFaultless
      cases hNone.symm.trans hFault
  | @judged first second _ hFirst hSecond _ hPrivilege
      hRead =>
      have hActions :
          (first ++ second).map Exchange.action =
            expectation.intent.expected ++
              expectation.intent.denied := by
        rw [List.map_append, hFirst, hSecond]
        rfl
      have hSome : first ++ second ≠ [] := by
        intro hNone
        rw [hNone] at hActions
        exact hFormed.actions_ne_nil hActions.symm
      refine ⟨_, rfl,
        Outcomes.entries_ne_nil_of_append hSome, ?_, ?_⟩
      · apply grounded_ofExchanges _ hFaultless
        intro exchange hMem
        exact hAsked.question_eq hMem
      · intro opening
        have hReport := report_of_read hAudit hRead opening
        rw [description_evaluate, hPrivilege] at hReport
        exact hReport

end Expectation

end Clearance

------------------------------------------------------------
-- Failing Assertions
------------------------------------------------------------

namespace Clearance

namespace Expectation

variable {σ : Type}

/- An account shows every entry of the two tables. -/
theorem shows_account
    {findings : Findings}
    {entry : Action × Bool}
    (hMem :
      entry ∈ findings.results.entries ∨
        entry ∈ findings.negated.entries)
    (controller : Controller)
    (description : String) :
    Text.Shows (account controller description findings)
      entry := by
  unfold account
  rcases hMem with hResults | hNegated
  · have hShows :=
      (Text.shows_table hResults).append_left
        (controller.qualifiedName ++ " to " ++ description ++
          ". results: ")
    exact (hShows.append_right _).append_right _
  · exact (Text.shows_table hNegated).append_left _

/-
  After any history, let a step evaluate the expectation, and
  let no question of it raise a fault. If the step fails, it
  is an assertion, and its message has the two tables of some
  findings, of which each entry was found by an exchange of
  this very step. An assertion that everything is permitted
  shows a no to an expected action or a yes to a denied one;
  one that everything is forbidden shows a yes to an expected
  action or a no to a denied one.
-/
theorem unmet_assertion_shows_breach
    {engine : Engine σ}
    {threshold : Level}
    {role : Role}
    {start : σ}
    {history : List (Occurrence Step σ)}
    {purpose : Purpose}
    {target : Target}
    {failure : Failure}
    (hFaultless :
      let now := reached engine threshold role start history
      let taken :=
        now.1.step engine threshold
          (.evaluate purpose target) now.2
      ∀ exchange ∈ Event.exchanges taken.1.events,
        exchange.fault? = none)
    (hFailed :
      let now := reached engine threshold role start history
      let taken :=
        now.1.step engine threshold
          (.evaluate purpose target) now.2
      taken.1.result = .error failure) :
    let now := reached engine threshold role start history
    let taken :=
      now.1.step engine threshold (.evaluate purpose target)
        now.2
    let asked := Event.exchanges taken.1.events
    let shown := fun entries : List (Action × Bool) =>
      "\x7b" ++
        ", ".intercalate
          (entries.map fun entry =>
            Text.quote entry.1 ++ ": " ++
              if entry.2 then "True" else "False") ++
        "\x7d"
    let told := fun findings : Findings =>
      target.controller.qualifiedName ++ " to " ++
        now.1.description ++ ". results: " ++
        shown findings.results.entries ++
        ", negated_results: " ++
        shown findings.negated.entries
    ∃ findings,
      Grounded (now.1.privilegeFor target) asked findings ∧
        ((purpose = .assertPermitted ∧
            failure = .unmet ("Expected " ++ told findings) ∧
            failure.message = "Expected " ++ told findings ∧
            ∃ entry,
              findings.Breach entry ∧
                Text.Shows failure.message entry) ∨
          (purpose = .assertForbidden ∧
            failure =
              .unmet ("Did not expect " ++ told findings) ∧
            failure.message =
              "Did not expect " ++ told findings ∧
            ∃ entry,
              findings.opposite.Breach entry ∧
                Text.Shows failure.message entry)) := by
  intro now taken asked shown told
  have hFormed : now.1.intent.Formed :=
    formed_reached engine threshold role start history
  rcases evaluate_of_faultless hFormed hFaultless with
    ⟨findings, hVerdict, hSome, hGrounded, hReport⟩
  have hTold :
      account target.controller now.1.description findings =
        told findings :=
    account_eq _ _ _
  refine ⟨findings, hGrounded, ?_⟩
  have hAnswer :=
    purpose.answer_of_reports (hReport "Expected ")
      (hReport "Did not expect ") findings.verdict
  have hResult :
      (now.1.evaluate engine threshold target
          now.2).1.result.bind
            (purpose.answer
              (now.1.evaluate engine threshold target
                now.2).2) =
        .error failure :=
    hFailed
  rw [hVerdict, Except.bind, hAnswer] at hResult
  cases purpose with
  | verdict => cases hResult
  | permitted => cases hResult
  | forbidden => cases hResult
  | assertPermitted =>
      by_cases hMet : findings.verdict = .permitted
      · simp only [if_pos hMet] at hResult
        cases hResult
      · simp only [if_neg hMet] at hResult
        cases hResult
        rcases Findings.exists_breach_of_verdict hMet with
          ⟨entry, hBreach⟩
        have hShows :=
          shows_account hBreach.mem_or_mem target.controller
            now.1.description
        rw [← hTold]
        exact Or.inl ⟨rfl, rfl, rfl, entry, hBreach,
          hShows.append_left "Expected "⟩
  | assertForbidden =>
      by_cases hMet : findings.verdict = .forbidden
      · simp only [if_pos hMet] at hResult
        cases hResult
      · simp only [if_neg hMet] at hResult
        cases hResult
        rcases Findings.exists_breach_opposite_of_verdict
            hSome hMet with
          ⟨entry, hBreach⟩
        have hShows :=
          shows_account hBreach.mem_or_mem.symm
            target.controller now.1.description
        rw [← hTold]
        exact Or.inr ⟨rfl, rfl, rfl, entry, hBreach,
          hShows.append_left "Did not expect "⟩

/-
  An engine that said yes to a first assertion says no to the
  action of the next one, and yes to the others. The next one
  fails, and shows an entry of its own step.
-/
theorem unmet_assertion_shows_breach_of_script :
    let engine :=
      (Rulebook.script (.ok (.flag true))
        [.ok .null, .ok (.text "0")]).engine
    let target : Target := .itself ⟨"Posts", "Posts"⟩
    let now :=
      reached engine .debug "writer" 0
        [.own (.evaluate .assertPermitted target),
          .own (.withHelper "only_to_delete")]
    let taken :=
      now.1.step engine .debug
        (.evaluate .assertPermitted target) now.2
    ∃ findings failure,
      taken.1.result = .error failure ∧
        Grounded (now.1.privilegeFor target)
          (Event.exchanges taken.1.events) findings ∧
        ∃ entry,
          findings.Breach entry ∧
            Text.Shows failure.message entry := by
  intro engine target now taken
  have hFaultless :
      ∀ exchange ∈ Event.exchanges taken.1.events,
        exchange.fault? = none := by
    decide
  have hNotOk : taken.1.result.isOk = false := by
    decide
  cases hResult : taken.1.result with
  | ok answer =>
      rw [hResult] at hNotOk
      cases hNotOk
  | error failure =>
      rcases unmet_assertion_shows_breach hFaultless
          hResult with
        ⟨findings, hGrounded, hShown | hShown⟩
      · exact ⟨findings, failure, rfl, hGrounded,
          hShown.2.2.2⟩
      · cases hShown.1

end Expectation

end Clearance
