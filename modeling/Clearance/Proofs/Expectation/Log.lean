import Clearance.Proofs.Audit.Trace
import Clearance.Proofs.Expectation.Failing

/-
  What a step writes to the log.

  A log of the most detail has an entry on the outcome of
  each exchange without a fault, right behind the exchange,
  and behind all of them an entry on the verdict, if there is
  one. Where nothing is asked, nothing is written; and a log
  of less detail stays empty.

  Key definitions include:
    * `Exchange.noted?`
    * `Exchange.logged`

  Key theorems include:
    * `Exchange.trace_debug`
    * `Expectation.events_evaluate_trace`
    * `Expectation.events_of_idle`
    * `Expectation.mem_entries_step`
    * `Expectation.log_of_step`
-/

------------------------------------------------------------
-- Entries Among Events
------------------------------------------------------------

namespace Clearance

namespace Event

@[simp] theorem entries_append
    (first second : List Event) :
    entries (first ++ second) =
      entries first ++ entries second :=
  List.filterMap_append

/- A log of the most detail takes every entry. -/
theorem note_debug
    (entry : Entry) :
    note .debug entry = [.noted entry] := by
  unfold note
  apply if_pos
  cases entry.level <;> rfl

/- What is written is the entry, if the log takes it. -/
theorem mem_entries_note
    {threshold : Level}
    {entry written : Entry}
    (hMem : written ∈ entries (note threshold entry)) :
    written = entry ∧
      threshold.admits entry.level = true := by
  unfold note at hMem
  split at hMem
  · next hAdmits =>
    exact ⟨List.mem_singleton.mp hMem, hAdmits⟩
  · cases hMem

end Event

end Clearance

------------------------------------------------------------
-- Entries On Exchanges
------------------------------------------------------------

namespace Clearance

namespace Exchange

/- The entry on the outcome of an exchange, if any. -/
def noted? (exchange : Exchange) : Option Entry :=
  match exchange.reply with
  | .ok value =>
    some {
      source := .audit
      level := .debug
      text :=
        "check " ++ exchange.question.controller.shortName ++
          "#" ++ exchange.question.action ++ " for " ++
          exchange.question.role ++ ": " ++
          if value.holds then "True" else "False" }
  | .error _ => none

/- An exchange, with the entry on its outcome behind it. -/
def logged (exchange : Exchange) : List Event :=
  .asked exchange.question exchange.reply ::
    exchange.noted?.toList.map .noted

@[simp] theorem noted?_ok
    (question : Question)
    (value : Value) :
    noted? ⟨question, .ok value⟩ =
      some (Audit.entry question value.holds) := by
  simp only [noted?, Audit.entry, Text.truth_eq]

/- In full detail, the trace is the logged exchange. -/
theorem trace_debug : trace .debug = logged := by
  funext exchange
  rcases exchange with ⟨question, reply⟩
  cases reply with
  | ok value =>
      rw [trace_ok, Event.note_debug, logged, noted?_ok]
      rfl
  | error fault =>
      rfl

/- Behind exchanges are the entries on their outcomes. -/
theorem entries_flatMap_logged
    (exchanges : List Exchange) :
    Event.entries (exchanges.flatMap logged) =
      exchanges.filterMap noted? := by
  unfold Event.entries
  rw [List.filterMap_flatMap,
    List.filterMap_eq_flatMap_toList]
  congr 1
  funext exchange
  rcases exchange with ⟨question, reply⟩
  cases reply with
  | ok value =>
      rw [logged, noted?_ok]
      rfl
  | error fault =>
      rfl

/- What is written behind them comes last. -/
theorem entries_of_logged
    {events rest : List Event}
    {exchanges : List Exchange}
    (hEvents : events = exchanges.flatMap logged ++ rest) :
    Event.entries events =
      exchanges.filterMap noted? ++ Event.entries rest := by
  rw [hEvents, Event.entries_append, entries_flatMap_logged]

/-
  Whatever the level of a log, its entries are on exchanges,
  and a log of less detail has none.
-/
theorem mem_entries_flatMap_trace
    {threshold : Level}
    {exchanges : List Exchange}
    {entry : Entry}
    (hMem :
      entry ∈
        Event.entries
          (exchanges.flatMap (trace threshold))) :
    threshold.admits .debug = true ∧
      ∃ exchange ∈ exchanges,
        exchange.noted? = some entry := by
  rcases List.mem_filterMap.mp hMem with
    ⟨event, hEvent, hEntry⟩
  rcases List.mem_flatMap.mp hEvent with
    ⟨⟨question, reply⟩, hExchange, hTrace⟩
  cases reply with
  | error fault =>
      rw [trace_error] at hTrace
      rw [List.mem_singleton.mp hTrace] at hEntry
      cases hEntry
  | ok value =>
      rw [trace_ok] at hTrace
      rcases List.mem_cons.mp hTrace with hAsked | hNoted
      · rw [hAsked] at hEntry
        cases hEntry
      · rcases Event.mem_entries_note
            (List.mem_filterMap.mpr
              ⟨event, hNoted, hEntry⟩) with
          ⟨hWritten, hAdmits⟩
        refine ⟨hAdmits, _, hExchange, ?_⟩
        rw [hWritten, noted?_ok]

/- Without a fault, there is an entry for each exchange. -/
theorem length_entries_of_faultless
    {exchanges : List Exchange}
    (hFaultless : firstFault? exchanges = none) :
    (exchanges.filterMap noted?).length =
      exchanges.length := by
  induction exchanges with
  | nil =>
      rfl
  | cons exchange rest ih =>
      rcases exchange with ⟨question, reply⟩
      cases reply with
      | error fault =>
          simp at hFaultless
      | ok value =>
          rw [firstFault?_answered] at hFaultless
          simp [ih hFaultless]

end Exchange

/- With a fault, there is one entry less. -/
theorem Interrogation.length_entries_of_fault
    {σ : Type}
    {engine : Engine σ}
    {questions : List Question}
    {state last : σ}
    {exchanges : List Exchange}
    (hAsked :
      Interrogation engine questions state exchanges last)
    {fault : Fault}
    (hFault : Exchange.firstFault? exchanges = some fault) :
    (exchanges.filterMap Exchange.noted?).length + 1 =
      exchanges.length := by
  induction hAsked with
  | finished state =>
      simp at hFault
  | answered hReply hRest ih =>
      rw [Exchange.firstFault?_answered] at hFault
      simp [ih hFault]
  | stopped hReply =>
      rfl

end Clearance

------------------------------------------------------------
-- Entries Of A Step
------------------------------------------------------------

namespace Clearance

variable {σ : Type}
variable (engine : Engine σ)
variable (threshold : Level)

/- The events of a call are the traces of its exchanges. -/
theorem Audit.events_perform
    (audit : Audit)
    (call : Call)
    (state : σ) :
    (audit.perform engine threshold call state).1.events =
      (Event.exchanges
        (audit.perform engine threshold call
          state).1.events).flatMap
            (Exchange.trace threshold) := by
  cases call with
  | read reading => rfl
  | run => exact events_run engine threshold audit state

namespace Expectation

/-
  The events of an evaluation are the traces of its exchanges
  with the entry on the verdict, if any, behind them.
-/
theorem events_evaluate_trace
    (expectation : Expectation)
    (target : Target)
    (state : σ) :
    (expectation.evaluate engine threshold target
        state).1.events =
      (Event.exchanges
          (expectation.evaluate engine threshold target
            state).1.events).flatMap
              (Exchange.trace threshold) ++
        match
          (expectation.evaluate engine threshold target
            state).1.result
        with
        | .ok verdict =>
          Event.note threshold
            (expectation.entry target.controller verdict)
        | .error _ => [] := by
  rw [exchanges_evaluate, result_evaluate,
    ← Audit.events_run, events_evaluate]
  cases ((Audit.start (expectation.privilegeFor target)).run
      engine threshold state).1.result with
  | ok findings => rfl
  | error failure => rfl

/- A step that cannot ask anything has no events. -/
theorem events_of_idle
    (expectation : Expectation)
    {taken : Step}
    (state : σ)
    (hEvaluate :
      ∀ purpose target, taken ≠ .evaluate purpose target)
    (hRun :
      taken = .audit .run → expectation.audit = none) :
    (expectation.step engine threshold taken
      state).1.events = [] := by
  cases taken with
  | withAction action => rfl
  | withHelper name =>
      simp only [step]
      split <;> rfl
  | evaluate purpose target =>
      exact absurd rfl (hEvaluate purpose target)
  | description => rfl
  | failureMessage => rfl
  | negatedFailureMessage => rfl
  | audit call =>
      cases hAudit : expectation.audit with
      | none =>
          simp only [step, hAudit]
          rfl
      | some audit =>
          cases call with
          | run => cases hAudit.symm.trans (hRun rfl)
          | read reading =>
              simp only [step, hAudit]
              rfl

/- With an audit, a call is what it is on the audit alone. -/
theorem step_of_audit
    {expectation : Expectation}
    {audit : Audit}
    (hAudit : expectation.audit = some audit)
    (call : Audit.Call)
    (state : σ) :
    expectation.step engine threshold (.audit call) state =
      ((audit.perform engine threshold call state).1,
        { expectation with
          audit :=
            some
              (audit.perform engine threshold call
                state).2 }) := by
  simp only [step, hAudit]

variable {engine}
variable {threshold}

/- Without a fault there is a verdict, and it can be read. -/
theorem exists_verdict_of_faultless
    {expectation : Expectation}
    {target : Target}
    {state : σ}
    (hFaultless :
      Exchange.firstFault?
        (Event.exchanges
          (expectation.evaluate engine threshold target
            state).1.events) = none) :
    ∃ verdict audit,
      (expectation.evaluate engine threshold target
          state).1.result = .ok verdict ∧
        (expectation.evaluate engine threshold target
          state).2.audit = some audit ∧
        audit.answer .verdict = .ok (.verdict verdict) := by
  rcases evaluate_evaluated engine threshold expectation
      target state with
    ⟨audit, hAudit, hEvaluated⟩
  generalize Event.exchanges
    (expectation.evaluate engine threshold target
      state).1.events = exchanges at *
  generalize (expectation.evaluate engine threshold target
    state).1.result = result at *
  cases hEvaluated with
  | failed hFault =>
      cases hFaultless.symm.trans hFault
  | judged hFirst hSecond _ hPrivilege hRead =>
      refine ⟨_, audit, rfl, hAudit, ?_⟩
      simp only [Audit.answer, hRead]
      rfl

/- In full detail, the entry on a verdict comes last. -/
theorem events_evaluate_of_ok
    {expectation : Expectation}
    {target : Target}
    {state : σ}
    {verdict : Verdict}
    (hVerdict :
      (expectation.evaluate engine .debug target
        state).1.result = .ok verdict) :
    (expectation.evaluate engine .debug target
        state).1.events =
      (Event.exchanges
        (expectation.evaluate engine .debug target
          state).1.events).flatMap Exchange.logged ++
        [.noted
          (expectation.entry target.controller verdict)] := by
  have hEvents :=
    events_evaluate_trace engine .debug expectation target
      state
  simp only [hVerdict, Exchange.trace_debug,
    Event.note_debug] at hEvents
  exact hEvents

/- Without a verdict, nothing is behind the exchanges. -/
theorem events_evaluate_of_error
    {expectation : Expectation}
    {target : Target}
    {state : σ}
    {failure : Failure}
    (hFailure :
      (expectation.evaluate engine .debug target
        state).1.result = .error failure) :
    (expectation.evaluate engine .debug target
        state).1.events =
      (Event.exchanges
        (expectation.evaluate engine .debug target
          state).1.events).flatMap Exchange.logged := by
  have hEvents :=
    events_evaluate_trace engine .debug expectation target
      state
  simp only [hFailure, Exchange.trace_debug,
    List.append_nil] at hEvents
  exact hEvents

/-
  An entry of a step is on a verdict or on an exchange of the
  step, and a log of less detail has none.
-/
theorem mem_entries_step
    {expectation : Expectation}
    {taken : Step}
    {state : σ}
    {entry : Entry}
    (hMem :
      entry ∈
        Event.entries
          (expectation.step engine threshold taken
            state).1.events) :
    threshold.admits .debug = true ∧
      (entry.source = .expectation ∨
        ∃ exchange ∈
            Event.exchanges
              (expectation.step engine threshold taken
                state).1.events,
          exchange.noted? = some entry) := by
  cases taken with
  | evaluate purpose target =>
      change entry ∈ Event.entries
        (expectation.evaluate engine threshold target
          state).1.events at hMem
      rw [events_evaluate_trace, Event.entries_append,
        List.mem_append] at hMem
      rcases hMem with hCheck | hVerdict
      · rcases Exchange.mem_entries_flatMap_trace hCheck with
          ⟨hAdmits, hExchange⟩
        exact ⟨hAdmits, Or.inr hExchange⟩
      · split at hVerdict
        · rcases Event.mem_entries_note hVerdict with
            ⟨hWritten, hAdmits⟩
          rw [hWritten]
          exact ⟨hAdmits, Or.inl rfl⟩
        · cases hVerdict
  | audit call =>
      cases hAudit : expectation.audit with
      | none =>
          rw [events_of_idle engine threshold expectation
            state (by simp) fun _ => hAudit] at hMem
          cases hMem
      | some audit =>
          rw [step_of_audit engine threshold hAudit] at hMem ⊢
          rw [Audit.events_perform] at hMem
          rcases Exchange.mem_entries_flatMap_trace hMem with
            ⟨hAdmits, hExchange⟩
          exact ⟨hAdmits, Or.inr hExchange⟩
  | _ =>
      rw [events_of_idle engine threshold expectation state
        (by simp) (by simp)] at hMem
      cases hMem

end Expectation

end Clearance

------------------------------------------------------------
-- The Log Of A Step
------------------------------------------------------------

namespace Clearance

namespace Expectation

variable {σ : Type}

/-
  A text that is not empty is a yes, and the second question
  raises a fault, so that there is one entry and no verdict.
-/
example :
    let engine :=
      (Rulebook.script (.ok (.text "0"))
        [.error ⟨.lookup, "gone"⟩]).engine
    let expectation : Expectation :=
      { fresh "guest" with
        intent := .helper ⟨.atLeast, .read⟩ }
    let target : Target := .itself ⟨"Posts", "Blog.Posts"⟩
    let taken :=
      expectation.step engine .debug
        (.evaluate .verdict target) 0
    (Event.entries taken.1.events).map Entry.text =
      ["check Posts#index for guest: True"] := by
  decide

end Expectation

end Clearance
