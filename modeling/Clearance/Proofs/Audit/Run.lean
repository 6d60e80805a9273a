import Clearance.Audit
import Clearance.Proofs.Recording

/-
  What a run of an audit does.

  A survey is an interrogation, and its result is either the
  first fault of it or the table of its outcomes. A run is a
  survey of the expected actions and, unless that raises a
  fault, one of the denied actions. There are three ways for
  it to go, and every law of a run follows from these.

  Key definitions include:
    * `Audit.Ran`

  Key theorems include:
    * `Audit.survey_interrogation`
    * `Audit.survey_result`
    * `Audit.run_ran`
    * `Audit.run_asks_each_position_once`
-/

------------------------------------------------------------
-- Surveys
------------------------------------------------------------

namespace Clearance

@[simp] theorem Privilege.action_question
    (privilege : Privilege)
    (action : Action) :
    (privilege.question action).action = action :=
  rfl

/- What was asked says which actions it was about. -/
theorem Privilege.actions_of_questions
    {privilege : Privilege}
    {exchanges : List Exchange}
    {actions : List Action}
    (hQuestions :
      exchanges.map Exchange.question =
        actions.map privilege.question) :
    exchanges.map Exchange.action = actions := by
  have hActions :=
    congrArg (List.map Question.action) hQuestions
  rw [List.map_map, List.map_map] at hActions
  exact hActions.trans (List.map_id actions)

/- What is asked of a privilege is about one of its actions. -/
theorem Interrogation.question_eq
    {σ : Type}
    {engine : Engine σ}
    {privilege : Privilege}
    {actions : List Action}
    {state last : σ}
    {exchanges : List Exchange}
    (hAsked :
      Interrogation engine
        (actions.map privilege.question)
        state exchanges last)
    {exchange : Exchange}
    (hMem : exchange ∈ exchanges) :
    exchange.question =
      privilege.question exchange.action := by
  have hQuestion :
      exchange.question ∈ actions.map privilege.question :=
    hAsked.questions_prefix.subset
      (List.mem_map_of_mem hMem)
  rcases List.mem_map.mp hQuestion with ⟨action, _, hEq⟩
  rw [Exchange.action, ← hEq, Privilege.action_question]

namespace Audit

variable {σ : Type}

/- A survey goes on after an answer. -/
theorem survey_of_ok
    {engine : Engine σ}
    (threshold : Level)
    {privilege : Privilege}
    {action : Action}
    (rest : List Action)
    (outcomes : Outcomes)
    {state next : σ}
    {value : Value}
    (hReply :
      engine (privilege.question action) state =
        (.ok value, next)) :
    survey engine threshold privilege (action :: rest)
        outcomes state =
      (survey engine threshold privilege rest
        (outcomes.record action value.holds) next).preceded
        (.asked (privilege.question action) (.ok value) ::
          Event.note threshold
            (entry (privilege.question action)
              value.holds)) := by
  simp only [survey, hReply]

/- A survey ends with a fault. -/
theorem survey_of_error
    {engine : Engine σ}
    (threshold : Level)
    {privilege : Privilege}
    {action : Action}
    (rest : List Action)
    (outcomes : Outcomes)
    {state next : σ}
    {fault : Fault}
    (hReply :
      engine (privilege.question action) state =
        (.error fault, next)) :
    survey engine threshold privilege (action :: rest)
        outcomes state =
      ⟨.error (.raised fault), next,
        [.asked (privilege.question action)
          (.error fault)]⟩ := by
  simp only [survey, hReply]

/- A survey puts the questions about its actions. -/
theorem survey_interrogation
    (engine : Engine σ)
    (threshold : Level)
    (privilege : Privilege)
    (actions : List Action)
    (outcomes : Outcomes)
    (state : σ) :
    Interrogation engine
      (actions.map privilege.question) state
      (Event.exchanges
        (survey engine threshold privilege actions outcomes
          state).events)
      (survey engine threshold privilege actions outcomes
        state).engine := by
  induction actions generalizing outcomes state with
  | nil =>
      exact .finished state
  | cons action rest ih =>
      rcases hReply :
          engine (privilege.question action) state with
        ⟨reply, next⟩
      cases reply with
      | error fault =>
          rw [survey_of_error threshold rest outcomes
            hReply]
          exact .stopped hReply
      | ok value =>
          rw [survey_of_ok threshold rest outcomes hReply]
          simpa [Run.preceded] using
            Interrogation.answered hReply
              (ih (outcomes.record action value.holds) next)

/-
  A survey fails with the first fault, and without one it
  records the outcomes of its exchanges.
-/
theorem survey_result
    (engine : Engine σ)
    (threshold : Level)
    (privilege : Privilege)
    (actions : List Action)
    (outcomes : Outcomes)
    (state : σ) :
    (survey engine threshold privilege actions outcomes
        state).result =
      match
        Exchange.firstFault?
          (Event.exchanges
            (survey engine threshold privilege actions
              outcomes state).events)
      with
      | some fault => .error (.raised fault)
      | none =>
        .ok
          (outcomes.recordAll
            (Event.exchanges
              (survey engine threshold privilege actions
                outcomes state).events)) := by
  induction actions generalizing outcomes state with
  | nil =>
      rfl
  | cons action rest ih =>
      rcases hReply :
          engine (privilege.question action) state with
        ⟨reply, next⟩
      cases reply with
      | error fault =>
          rw [survey_of_error threshold rest outcomes
            hReply]
          rfl
      | ok value =>
          rw [survey_of_ok threshold rest outcomes hReply]
          have hRest :=
            ih (outcomes.record action value.holds) next
          simpa [Run.preceded] using hRest

end Audit

end Clearance

------------------------------------------------------------
-- Runs
------------------------------------------------------------

namespace Clearance

namespace Audit

variable {σ : Type}

/-
  The ways for a run of an audit to go: the exchanges, the
  result, the state of the engine and the audit after it.
-/
inductive Ran
    (engine : Engine σ)
    (audit : Audit)
    (state : σ) :
    List Exchange →
    Except Failure Findings →
    σ →
    Audit →
    Prop where
  /- A question about an expected action raises a fault. -/
  | stoppedAtExpected
      {asked : List Exchange}
      {last : σ}
      {fault : Fault}
      (hAsked :
        Interrogation engine
          (audit.privilege.expected.map
            audit.privilege.question)
          state asked last)
      (hFault : Exchange.firstFault? asked = some fault) :
    Ran engine audit state asked (.error (.raised fault))
      last audit
  /- A question about a denied action raises a fault. -/
  | stoppedAtDenied
      {first second : List Exchange}
      {middle last : σ}
      {fault : Fault}
      (hFirst :
        Interrogation engine
          (audit.privilege.expected.map
            audit.privilege.question)
          state first middle)
      (hFaultless : Exchange.firstFault? first = none)
      (hSecond :
        Interrogation engine
          (audit.privilege.denied.map
            audit.privilege.question)
          middle second last)
      (hFault : Exchange.firstFault? second = some fault) :
    Ran engine audit state (first ++ second)
      (.error (.raised fault)) last
      (audit.keepResults (.ofExchanges first))
  /- No question raises a fault. -/
  | completed
      {first second : List Exchange}
      {middle last : σ}
      (hFirst :
        Interrogation engine
          (audit.privilege.expected.map
            audit.privilege.question)
          state first middle)
      (hFaultless : Exchange.firstFault? first = none)
      (hSecond :
        Interrogation engine
          (audit.privilege.denied.map
            audit.privilege.question)
          middle second last)
      (hFaultless' : Exchange.firstFault? second = none) :
    Ran engine audit state (first ++ second)
      (.ok ⟨.ofExchanges first, .ofExchanges second⟩) last
      ((audit.keepResults (.ofExchanges first)).keepNegated
        (.ofExchanges second))

/- Every run goes one of the ways. -/
theorem run_ran
    (engine : Engine σ)
    (threshold : Level)
    (audit : Audit)
    (state : σ) :
    Ran engine audit state
      (Event.exchanges
        (audit.run engine threshold state).1.events)
      (audit.run engine threshold state).1.result
      (audit.run engine threshold state).1.engine
      (audit.run engine threshold state).2 := by
  have hFirst :=
    survey_interrogation engine threshold audit.privilege
      audit.privilege.expected .empty state
  have hFirstResult :=
    survey_result engine threshold audit.privilege
      audit.privilege.expected .empty state
  simp only [run]
  generalize survey engine threshold audit.privilege
    audit.privilege.expected .empty state = first at *
  cases hFault :
      Exchange.firstFault?
        (Event.exchanges first.events) with
  | some fault =>
      rw [hFault] at hFirstResult
      simp only [hFirstResult]
      exact .stoppedAtExpected hFirst hFault
  | none =>
      rw [hFault] at hFirstResult
      simp only [hFirstResult]
      have hSecond :=
        survey_interrogation engine threshold
          audit.privilege audit.privilege.denied .empty
          first.engine
      have hSecondResult :=
        survey_result engine threshold audit.privilege
          audit.privilege.denied .empty first.engine
      generalize survey engine threshold audit.privilege
        audit.privilege.denied .empty first.engine =
          second at *
      cases hFault' :
          Exchange.firstFault?
            (Event.exchanges second.events) with
      | some fault =>
          rw [hFault'] at hSecondResult
          simp only [hSecondResult, Event.exchanges_append]
          exact .stoppedAtDenied hFirst hFault hSecond
            hFault'
      | none =>
          rw [hFault'] at hSecondResult
          simp only [hSecondResult, Event.exchanges_append]
          exact .completed hFirst hFault hSecond hFault'

end Audit

end Clearance

------------------------------------------------------------
-- The Order Of The Questions
------------------------------------------------------------

namespace Clearance

namespace Audit

variable {σ : Type}

namespace Ran

variable {engine : Engine σ}
variable {audit after : Audit}
variable {state last : σ}
variable {asked : List Exchange}
variable {result : Except Failure Findings}

/- A run is one interrogation on all of the actions. -/
theorem interrogation
    (hRan : Ran engine audit state asked result last after) :
    Interrogation engine
      ((audit.privilege.expected ++
        audit.privilege.denied).map
          audit.privilege.question)
      state asked last := by
  rw [List.map_append]
  cases hRan with
  | stoppedAtExpected hAsked hFault =>
      exact hAsked.extend_of_fault hFault _
  | stoppedAtDenied hFirst hFaultless hSecond hFault =>
      exact hFirst.append hFaultless hSecond
  | completed hFirst hFaultless hSecond hFaultless' =>
      exact hFirst.append hFaultless hSecond

/- A run fails with the fault that was raised. -/
theorem result_of_fault
    (hRan : Ran engine audit state asked result last after)
    {fault : Fault}
    (hFault : Exchange.firstFault? asked = some fault) :
    result = .error (.raised fault) := by
  cases hRan with
  | stoppedAtExpected hAsked hFault' =>
      rw [hFault, Option.some_inj] at hFault'
      rw [hFault']
  | stoppedAtDenied hFirst hFaultless hSecond hFault' =>
      rw [Exchange.firstFault?_append_of_faultless _
        hFaultless, hFault', Option.some_inj] at hFault
      rw [hFault]
  | completed hFirst hFaultless hSecond hFaultless' =>
      rw [Exchange.firstFault?_append_of_faultless _
        hFaultless, hFaultless'] at hFault
      cases hFault

/- A run that is completed raised no fault. -/
theorem faultless_of_ok
    {findings : Findings}
    (hRan :
      Ran engine audit state asked (.ok findings) last
        after) :
    Exchange.firstFault? asked = none := by
  cases hFault : Exchange.firstFault? asked with
  | none => rfl
  | some fault => cases hRan.result_of_fault hFault

/-
  Without a fault, a run leaves the table of the expected
  actions and that of the denied ones.
-/
theorem of_faultless
    (hRan : Ran engine audit state asked result last after)
    (hFaultless : Exchange.firstFault? asked = none) :
    ∃ first second,
      asked = first ++ second ∧
        first.map Exchange.action =
          audit.privilege.expected ∧
        second.map Exchange.action =
          audit.privilege.denied ∧
        result =
          .ok ⟨.ofExchanges first, .ofExchanges second⟩ ∧
        after =
          (audit.keepResults (.ofExchanges first)).keepNegated
            (.ofExchanges second) := by
  cases hRan with
  | stoppedAtExpected hAsked hFault =>
      rw [hFaultless] at hFault
      simp at hFault
  | stoppedAtDenied hFirst hFaultless' hSecond hFault =>
      rw [Exchange.firstFault?_append_of_faultless _
        hFaultless', hFault] at hFaultless
      cases hFaultless
  | @completed first second _ _ hFirst hNone hSecond hNone' =>
      exact ⟨first, second, rfl,
        Privilege.actions_of_questions
          (hFirst.questions_eq hNone),
        Privilege.actions_of_questions
          (hSecond.questions_eq hNone'),
        rfl, rfl⟩

end Ran

/-
  A run puts the questions about the expected and then about
  the denied actions, in order and once for each position,
  up to and including the first that raises a fault. It fails
  with that very fault. Without one, it leaves two tables:
  each lists its actions in the order in which they first
  occur, with the outcome of the last question about each in
  its own part of the run.
-/
theorem run_asks_each_position_once
    (engine : Engine σ)
    (threshold : Level)
    (audit : Audit)
    (state : σ) :
    let run := (audit.run engine threshold state).1
    let after := (audit.run engine threshold state).2
    let asked := Event.exchanges run.events
    let expected := audit.privilege.expected
    let denied := audit.privilege.denied
    let questions :=
      (expected ++ denied).map audit.privilege.question
    Interrogation engine questions state asked run.engine ∧
      asked.map Exchange.question <+: questions ∧
      (∀ exchange ∈ asked.dropLast,
        exchange.fault? = none) ∧
      (∀ exchange ∈ asked, ∀ fault,
        exchange.fault? = some fault →
          run.result = .error (.raised fault)) ∧
      ((∀ exchange ∈ asked, exchange.fault? = none) →
        asked.map Exchange.question = questions ∧
          ∃ findings,
            run.result = .ok findings ∧
              after.read = .ok findings ∧
              findings.results.Tabulates expected
                (asked.take expected.length) ∧
              findings.negated.Tabulates denied
                (asked.drop expected.length)) := by
  intro run after asked expected denied questions
  have hRan : Ran engine audit state asked run.result
      run.engine after :=
    run_ran engine threshold audit state
  have hAsked := hRan.interrogation
  refine ⟨hAsked, hAsked.questions_prefix,
    fun exchange hMem => hAsked.fault?_of_mem_dropLast hMem,
    fun exchange hMem fault hFault =>
      hRan.result_of_fault
        (hAsked.firstFault?_of_mem hMem hFault), ?_⟩
  intro hFaultless
  have hNone : Exchange.firstFault? asked = none :=
    List.findSome?_eq_none_iff.mpr hFaultless
  rcases hRan.of_faultless hNone with
    ⟨first, second, hSplit, hFirst, hSecond, hResult,
      hAfter⟩
  have hLength : first.length = expected.length := by
    simpa using congrArg List.length hFirst
  refine ⟨hAsked.questions_eq hNone, _, hResult, ?_, ?_, ?_⟩
  · rw [hAfter]
    rfl
  · rw [hSplit, List.take_left' hLength]
    exact Outcomes.tabulates_ofExchanges hFirst
  · rw [hSplit, List.drop_left' hLength]
    exact Outcomes.tabulates_ofExchanges hSecond

end Audit

end Clearance
