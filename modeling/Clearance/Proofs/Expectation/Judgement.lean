import Clearance.Proofs.Audit.Run
import Clearance.Proofs.Expectation.Turning
import Clearance.Proofs.Findings
import Clearance.Rulebook

/-
  The verdict of an evaluation, and the exchanges from which
  it comes.

  An evaluation asks about each action of the intent once.
  The verdict says which of the exchanges came out as
  expected: all, none, or some.

  Key definitions include:
    * `Exchange.Unanimous`
    * `Exchange.Meets`
    * `Verdict.Reflects`
    * `Expectation.Judged`

  Key theorems include:
    * `Exchange.exists_meets_or_exists_meets`
    * `Expectation.evaluate_of_ok`
    * `Expectation.verdict_reflects_exchanges`
-/

------------------------------------------------------------
-- Verdicts And Exchanges
------------------------------------------------------------

namespace Clearance

namespace Exchange

/- Every exchange about one of these actions came out so. -/
def Unanimous
    (exchanges : List Exchange)
    (actions : List Action)
    (outcome : Bool) : Prop :=
  ∀ exchange ∈ exchanges,
    exchange.action ∈ actions → exchange.outcome = outcome

/-
  An exchange came out as expected by whoever expects these
  actions to be permitted, and those to be denied.
-/
def Meets
    (expected denied : List Action)
    (exchange : Exchange) : Prop :=
  (exchange.action ∈ expected ∧ exchange.outcome = true) ∨
    (exchange.action ∈ denied ∧ exchange.outcome = false)

/- An exchange comes out as expected or opposite to it. -/
theorem meets_or_meets
    {expected denied : List Action}
    {exchange : Exchange}
    (hAction :
      exchange.action ∈ expected ∨
        exchange.action ∈ denied) :
    exchange.Meets expected denied ∨
      exchange.Meets denied expected := by
  cases hOutcome : exchange.outcome with
  | true =>
      rcases hAction with hExpected | hDenied
      · exact Or.inl (Or.inl ⟨hExpected, hOutcome⟩)
      · exact Or.inr (Or.inl ⟨hDenied, hOutcome⟩)
  | false =>
      rcases hAction with hExpected | hDenied
      · exact Or.inr (Or.inr ⟨hExpected, hOutcome⟩)
      · exact Or.inl (Or.inr ⟨hDenied, hOutcome⟩)

/- Some exchange comes out in one of the two ways. -/
theorem exists_meets_or_exists_meets
    {exchanges : List Exchange}
    {expected denied : List Action}
    (hSome : exchanges ≠ [])
    (hActions :
      exchanges.map action ⊆ expected ++ denied) :
    (∃ exchange ∈ exchanges,
        exchange.Meets expected denied) ∨
      ∃ exchange ∈ exchanges,
        exchange.Meets denied expected := by
  rcases List.exists_mem_of_ne_nil exchanges hSome with
    ⟨exchange, hMem⟩
  have hAction :=
    List.mem_append.mp
      (hActions (List.mem_map_of_mem hMem))
  rcases meets_or_meets hAction with hMeets | hOpposite
  · exact Or.inl ⟨exchange, hMem, hMeets⟩
  · exact Or.inr ⟨exchange, hMem, hOpposite⟩

/- All is as expected unless something is opposite. -/
theorem unanimous_iff_none_opposite
    (exchanges : List Exchange)
    (expected denied : List Action) :
    Unanimous exchanges expected true ∧
        Unanimous exchanges denied false ↔
      ∀ exchange ∈ exchanges,
        ¬ exchange.Meets denied expected := by
  constructor
  · rintro ⟨hExpected, hDenied⟩ exchange hMem hMeets
    rcases hMeets with ⟨hAction, hYes⟩ | ⟨hAction, hNo⟩
    · rw [hDenied exchange hMem hAction] at hYes
      exact Bool.false_ne_true hYes
    · rw [hExpected exchange hMem hAction] at hNo
      exact Bool.false_ne_true hNo.symm
  · intro hNone
    constructor
    · intro exchange hMem hAction
      by_contra hOutcome
      exact hNone exchange hMem
        (Or.inr ⟨hAction, eq_false_of_ne_true hOutcome⟩)
    · intro exchange hMem hAction
      by_contra hOutcome
      exact hNone exchange hMem
        (Or.inl ⟨hAction, eq_true_of_ne_false hOutcome⟩)

/-
  The exchanges about the actions of one part are those of
  the part, if the rest is about other actions.
-/
theorem unanimous_part_iff
    {exchanges part rest : List Exchange}
    (hMem :
      ∀ exchange,
        exchange ∈ exchanges ↔
          exchange ∈ part ∨ exchange ∈ rest)
    (hDisjoint :
      (part.map action).Disjoint (rest.map action))
    (outcome : Bool) :
    Unanimous exchanges (part.map action) outcome ↔
      ∀ exchange ∈ part, exchange.outcome = outcome := by
  constructor
  · intro hAll exchange hPart
    exact hAll exchange
      ((hMem exchange).mpr (Or.inl hPart))
      (List.mem_map_of_mem hPart)
  · intro hAll exchange hExchange hAction
    rcases (hMem exchange).mp hExchange with hPart | hRest
    · exact hAll exchange hPart
    · exact absurd (List.mem_map_of_mem hRest)
        (hDisjoint hAction)

end Exchange

/-
  A verdict on exchanges about actions, of which the first are
  expected to be permitted and the second to be denied.
-/
structure Verdict.Reflects
    (verdict : Verdict)
    (exchanges : List Exchange)
    (expected denied : List Action) : Prop where
  permitted_iff :
    verdict = .permitted ↔
      Exchange.Unanimous exchanges expected true ∧
        Exchange.Unanimous exchanges denied false
  forbidden_iff :
    verdict = .forbidden ↔
      Exchange.Unanimous exchanges expected false ∧
        Exchange.Unanimous exchanges denied true
  mixed_iff :
    verdict = .mixed ↔
      (∃ exchange ∈ exchanges,
        exchange.Meets expected denied) ∧
        ∃ exchange ∈ exchanges,
          exchange.Meets denied expected

end Clearance

------------------------------------------------------------
-- Findings
------------------------------------------------------------

namespace Clearance

namespace Findings

/-
  If no action stands on both sides and there is some
  exchange, the verdict reflects the exchanges. Without any,
  permission and prohibition would hold together.
-/
theorem verdict_reflects
    {findings : Findings}
    {first second : List Exchange}
    (hResults :
      findings.results.entries =
        first.map fun exchange =>
          (exchange.action, exchange.outcome))
    (hNegated :
      findings.negated.entries =
        second.map fun exchange =>
          (exchange.action, exchange.outcome))
    (hDisjoint :
      (first.map Exchange.action).Disjoint
        (second.map Exchange.action))
    (hSome : first ++ second ≠ []) :
    findings.verdict.Reflects (first ++ second)
      (first.map Exchange.action)
      (second.map Exchange.action) := by
  have hFirst (outcome : Bool) :=
    Exchange.unanimous_part_iff
      (fun exchange => List.mem_append
        (a := exchange) (s := first) (t := second))
      hDisjoint outcome
  have hSecond (outcome : Bool) :=
    Exchange.unanimous_part_iff
      (fun exchange =>
        (List.mem_append
          (a := exchange) (s := first) (t := second)).trans
            or_comm)
      (List.disjoint_symm hDisjoint) outcome
  have hPermitted :
      findings.permitted = true ↔
        ∀ exchange ∈ first ++ second,
          ¬ exchange.Meets (second.map Exchange.action)
            (first.map Exchange.action) := by
    rw [← Exchange.unanimous_iff_none_opposite, hFirst,
      hSecond, permitted_iff, hResults, hNegated]
    simp only [List.forall_mem_map]
  have hForbidden :
      findings.forbidden = true ↔
        ∀ exchange ∈ first ++ second,
          ¬ exchange.Meets (first.map Exchange.action)
            (second.map Exchange.action) := by
    rw [← Exchange.unanimous_iff_none_opposite, hFirst,
      hSecond, forbidden_iff, hResults, hNegated, and_comm]
    simp only [List.forall_mem_map]
  have hApart :
      findings.forbidden = true →
        ¬ findings.permitted = true := by
    rw [hPermitted, hForbidden]
    intro hNone hNone'
    have hActions :
        (first ++ second).map Exchange.action ⊆
          first.map Exchange.action ++
            second.map Exchange.action := by
      rw [List.map_append]
      exact List.Subset.refl _
    rcases Exchange.exists_meets_or_exists_meets hSome
        hActions with
      ⟨exchange, hMem, hMeets⟩ | ⟨exchange, hMem, hMeets⟩
    · exact hNone exchange hMem hMeets
    · exact hNone' exchange hMem hMeets
  refine ⟨?_, ?_, ?_⟩
  · rw [verdict_eq_permitted_iff, hPermitted,
      Exchange.unanimous_iff_none_opposite]
  · rw [verdict_eq_forbidden_iff,
      and_iff_right_of_imp hApart, hForbidden, and_comm,
      Exchange.unanimous_iff_none_opposite]
  · rw [verdict_eq_mixed_iff, hPermitted, hForbidden]
    push Not
    exact and_comm

end Findings

end Clearance

------------------------------------------------------------
-- Evaluations
------------------------------------------------------------

namespace Clearance

namespace Expectation

variable {σ : Type}

/-
  An evaluation that gives a verdict has asked about the
  expected actions and then about the denied ones, has had a
  value each time, and keeps all of the outcomes.
-/
structure Judged
    (intent : Intent)
    (first second : List Exchange)
    (findings : Findings) : Prop where
  first_actions :
    first.map Exchange.action = intent.expected
  second_actions :
    second.map Exchange.action = intent.denied
  faultless : Exchange.firstFault? (first ++ second) = none
  results_eq :
    findings.results.entries =
      first.map fun exchange =>
        (exchange.action, exchange.outcome)
  negated_eq :
    findings.negated.entries =
      second.map fun exchange =>
        (exchange.action, exchange.outcome)

namespace Judged

variable {intent : Intent}
variable {first second : List Exchange}
variable {findings : Findings}

/- The exchanges are about the actions of the intent. -/
theorem actions_eq
    (hJudged : Judged intent first second findings) :
    (first ++ second).map Exchange.action =
      intent.expected ++ intent.denied := by
  rw [List.map_append, hJudged.first_actions,
    hJudged.second_actions]

/- There is some exchange. -/
theorem exchanges_ne_nil
    (hJudged : Judged intent first second findings)
    (hFormed : intent.Formed) :
    first ++ second ≠ [] := by
  intro hNone
  have hActions := hJudged.actions_eq
  rw [hNone] at hActions
  exact hFormed.actions_ne_nil hActions.symm

/- The verdict reflects the exchanges. -/
theorem reflects
    (hJudged : Judged intent first second findings)
    (hFormed : intent.Formed) :
    findings.verdict.Reflects (first ++ second)
      intent.expected intent.denied := by
  rw [← hJudged.first_actions, ← hJudged.second_actions]
  apply Findings.verdict_reflects hJudged.results_eq
    hJudged.negated_eq
  · rw [hJudged.first_actions, hJudged.second_actions]
    exact List.disjoint_of_nodup_append
      hFormed.nodup_actions
  · exact hJudged.exchanges_ne_nil hFormed

end Judged

/- A verdict comes from findings on exchanges. -/
theorem evaluate_of_ok
    {engine : Engine σ}
    {threshold : Level}
    {expectation : Expectation}
    {target : Target}
    {state : σ}
    {verdict : Verdict}
    (hFormed : expectation.intent.Formed)
    (hResult :
      (expectation.evaluate engine threshold target
        state).1.result = .ok verdict) :
    ∃ first second findings,
      Judged expectation.intent first second findings ∧
        Event.exchanges
            (expectation.evaluate engine threshold target
              state).1.events = first ++ second ∧
        (expectation.evaluate engine threshold target
            state).2.audit.bind Audit.findings =
          some findings ∧
        verdict = findings.verdict := by
  have hRan :=
    Audit.run_ran engine threshold
      (Audit.start (expectation.privilegeFor target)) state
  rw [result_evaluate] at hResult
  rw [exchanges_evaluate, after_evaluate]
  cases hRun :
      ((Audit.start (expectation.privilegeFor target)).run
        engine threshold state).1.result with
  | error failure =>
      rw [hRun] at hResult
      cases hResult
  | ok findings =>
      rw [hRun] at hResult hRan
      have hFaultless := hRan.faultless_of_ok
      rcases hRan.of_faultless hFaultless with
        ⟨first, second, hSplit, hFirst, hSecond, hOk,
          hAfter⟩
      have hOnce :
          (first.map Exchange.action ++
            second.map Exchange.action).Nodup := by
        rw [hFirst, hSecond]
        exact hFormed.nodup_actions
      rw [hSplit] at hFaultless
      cases hOk
      cases hResult
      refine ⟨first, second, _,
        ⟨hFirst, hSecond, hFaultless,
          Outcomes.entries_ofExchanges
            hOnce.of_append_left,
          Outcomes.entries_ofExchanges
            hOnce.of_append_right⟩,
        hSplit, ?_, rfl⟩
      rw [hAfter]
      rfl

/-
  After any history, the verdict of an evaluation reflects its
  exchanges: there is one for each action of the intent, no
  action is asked about twice, and the tables left behind have
  the outcome of each. Not all can be as expected and opposite
  at once.
-/
theorem verdict_reflects_exchanges
    {engine : Engine σ}
    {threshold : Level}
    {role : Role}
    {start : σ}
    {history : List (Occurrence Step σ)}
    {target : Target}
    {verdict : Verdict}
    (hResult :
      let now := reached engine threshold role start history
      (now.1.evaluate engine threshold target
        now.2).1.result = .ok verdict) :
    let now := reached engine threshold role start history
    let evaluated :=
      now.1.evaluate engine threshold target now.2
    let asked := Event.exchanges evaluated.1.events
    let expected := now.1.intent.expected
    let denied := now.1.intent.denied
    (asked.map Exchange.action).Nodup ∧
      asked ≠ [] ∧
      asked.map Exchange.action = expected ++ denied ∧
      (∀ exchange ∈ asked, exchange.fault? = none) ∧
      verdict.Reflects asked expected denied ∧
      ¬ ((Exchange.Unanimous asked expected true ∧
            Exchange.Unanimous asked denied false) ∧
          (Exchange.Unanimous asked expected false ∧
            Exchange.Unanimous asked denied true)) ∧
      ∃ findings,
        evaluated.2.audit.bind Audit.findings =
            some findings ∧
          findings.results.entries ++
              findings.negated.entries =
            asked.map fun exchange =>
              (exchange.action, exchange.outcome) := by
  intro now evaluated asked expected denied
  have hFormed : now.1.intent.Formed :=
    formed_reached engine threshold role start history
  rcases evaluate_of_ok hFormed hResult with
    ⟨first, second, findings, hJudged, hSplit, hFindings,
      hVerdict⟩
  have hAsked : asked = first ++ second := hSplit
  have hReflects : verdict.Reflects asked expected denied := by
    rw [hAsked, hVerdict]
    exact hJudged.reflects hFormed
  rw [hAsked] at *
  refine ⟨?_, hJudged.exchanges_ne_nil hFormed,
    hJudged.actions_eq,
    fun exchange hMem =>
      Exchange.fault?_eq_none_of_firstFault?
        hJudged.faultless hMem,
    hReflects, ?_, findings, hFindings, ?_⟩
  · rw [hJudged.actions_eq]
    exact hFormed.nodup_actions
  · rintro ⟨hMatch, hNoMatch⟩
    have hPermitted := hReflects.permitted_iff.mpr hMatch
    have hForbidden := hReflects.forbidden_iff.mpr hNoMatch
    rw [hPermitted] at hForbidden
    cases hForbidden
  · rw [hJudged.results_eq, hJudged.negated_eq,
      List.map_append]

/-
  An engine says yes in a first evaluation, and in the next
  one it says no, then yes by a text that is not empty, and
  no from then on. The next verdict is mixed, and there is an
  exchange of each kind.
-/
theorem verdict_reflects_wavering_script :
    let engine :=
      (Rulebook.script (.ok (.text "0"))
        [.ok (.flag false), .ok (.text "0"),
          .ok .null]).engine
    let target : Target := .itself ⟨"Posts", "Posts"⟩
    let now :=
      reached engine .debug "writer" 0
        [.own (.evaluate .assertPermitted target),
          .own (.withHelper "only_to_read_all"),
          .own (.withHelper "only_to_delete")]
    let run := (now.1.evaluate engine .debug target now.2).1
    run.result = .ok .mixed ∧
      (∃ exchange ∈ Event.exchanges run.events,
        exchange.Meets now.1.intent.expected
          now.1.intent.denied) ∧
      ∃ exchange ∈ Event.exchanges run.events,
        exchange.Meets now.1.intent.denied
          now.1.intent.expected := by
  intro engine target now run
  have hResult : run.result = .ok .mixed := by
    decide
  have hReflects :=
    (verdict_reflects_exchanges hResult).2.2.2.2.1
  exact ⟨hResult, hReflects.mixed_iff.mp rfl⟩

end Expectation

end Clearance
