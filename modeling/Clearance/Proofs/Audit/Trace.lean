import Clearance.Proofs.Audit.Run

/-
  The events of a run of an audit.

  Each exchange is followed at once by the entry on its
  outcome, unless it raised a fault, and there are no other
  events. What was asked thus determines what is noted.

  Key definitions include:
    * `Exchange.trace`

  Key theorems include:
    * `Audit.events_survey`
    * `Audit.events_run`
-/

------------------------------------------------------------
-- Traces
------------------------------------------------------------

namespace Clearance

namespace Exchange

/- An exchange with the entry on its outcome, if any. -/
def trace
    (threshold : Level)
    (exchange : Exchange) : List Event :=
  .asked exchange.question exchange.reply ::
    match exchange.reply with
    | .ok value =>
      Event.note threshold
        (Audit.entry exchange.question value.holds)
    | .error _ => []

theorem trace_ok
    (threshold : Level)
    (question : Question)
    (value : Value) :
    trace threshold ⟨question, .ok value⟩ =
      .asked question (.ok value) ::
        Event.note threshold
          (Audit.entry question value.holds) :=
  rfl

theorem trace_error
    (threshold : Level)
    (question : Question)
    (fault : Fault) :
    trace threshold ⟨question, .error fault⟩ =
      [.asked question (.error fault)] :=
  rfl

end Exchange

end Clearance

------------------------------------------------------------
-- Surveys And Runs
------------------------------------------------------------

namespace Clearance

namespace Audit

variable {σ : Type}

/- The events of a survey are the traces of its exchanges. -/
theorem events_survey
    (engine : Engine σ)
    (threshold : Level)
    (privilege : Privilege)
    (actions : List Action)
    (outcomes : Outcomes)
    (state : σ) :
    (survey engine threshold privilege actions outcomes
        state).events =
      (Event.exchanges
        (survey engine threshold privilege actions outcomes
          state).events).flatMap
            (Exchange.trace threshold) := by
  induction actions generalizing outcomes state with
  | nil =>
      rfl
  | cons action rest ih =>
      rcases hReply :
          engine (privilege.question action) state with
        ⟨reply, next⟩
      cases reply with
      | error fault =>
          rw [survey_of_error threshold rest outcomes
            hReply]
          rfl
      | ok value =>
          rw [survey_of_ok threshold rest outcomes hReply]
          have hRest :=
            ih (outcomes.record action value.holds) next
          simp only [Run.preceded, List.cons_append,
            Event.exchanges_asked, Event.exchanges_append,
            Event.exchanges_note, List.nil_append,
            List.flatMap_cons, Exchange.trace_ok]
          rw [← hRest]

/- So are those of a run. -/
theorem events_run
    (engine : Engine σ)
    (threshold : Level)
    (audit : Audit)
    (state : σ) :
    (audit.run engine threshold state).1.events =
      (Event.exchanges
        (audit.run engine threshold
          state).1.events).flatMap
            (Exchange.trace threshold) := by
  have hFirst :=
    events_survey engine threshold audit.privilege
      audit.privilege.expected .empty state
  simp only [run]
  generalize survey engine threshold audit.privilege
    audit.privilege.expected .empty state = first at *
  have hSecond :=
    events_survey engine threshold audit.privilege
      audit.privilege.denied .empty first.engine
  generalize survey engine threshold audit.privilege
    audit.privilege.denied .empty first.engine = second at *
  cases first.result with
  | error failure =>
      exact hFirst
  | ok results =>
      have hBoth :
          first.events ++ second.events =
            (Event.exchanges
              (first.events ++ second.events)).flatMap
                (Exchange.trace threshold) := by
        rw [Event.exchanges_append, List.flatMap_append,
          ← hFirst, ← hSecond]
      cases second.result with
      | error failure => exact hBoth
      | ok negated => exact hBoth

end Audit

end Clearance
