import Clearance.Expectation.Step
import Clearance.Proofs.Audit.Run
import Clearance.Proofs.Policy

/-
  Runs that cannot be told apart.

  Two engines match if, from linked states, they raise the
  same fault or reply by values that stand for the same, and
  leave linked states. Whatever is then asked of the one and
  of the other, by an audit, an evaluation or a step, comes to
  the same result, the same questions and the same entries,
  and leaves the same behind.

  Key definitions include:
    * `Engine.Matches`
    * `Event.Alike`
    * `Run.Alike`

  Key theorems include:
    * `Audit.survey_alike`
    * `Audit.run_alike`
    * `Expectation.evaluate_alike`
    * `Expectation.step_alike`
-/

------------------------------------------------------------
-- Matching Engines
------------------------------------------------------------

namespace Clearance

namespace Engine

variable {σ τ : Type}

/- From linked states, two engines reply alike. -/
def Matches
    (link : σ → τ → Prop)
    (engine : Engine σ)
    (other : Engine τ) : Prop :=
  ∀ question state state', link state state' →
    (engine question state).1.map Value.holds =
        (other question state').1.map Value.holds ∧
      link (engine question state).2
        (other question state').2

/- From the same state, an engine replies the same. -/
theorem matches_self
    (engine : Engine σ) :
    engine.Matches Eq engine := by
  intro question state state' hState
  rw [hState]
  exact ⟨rfl, rfl⟩

/- If it follows a policy, it does so from any two states. -/
theorem Follows.matches_self
    {engine : Engine σ}
    {policy : Policy}
    (hFollows : engine.Follows policy) :
    engine.Matches (fun _ _ => True) engine := by
  intro question state state' _
  rw [hFollows question state, hFollows question state']
  exact ⟨rfl, trivial⟩

end Engine

end Clearance

------------------------------------------------------------
-- Events
------------------------------------------------------------

namespace Clearance

namespace Event

/-
  Events with the same questions, and with the same entries if
  the logs are kept at the same level.
-/
structure Alike
    (threshold threshold' : Level)
    (left right : List Event) : Prop where
  questions_eq : questions left = questions right
  entries_eq :
    threshold = threshold' → entries left = entries right

variable {threshold threshold' : Level}

theorem alike_refl
    (events : List Event) :
    Alike threshold threshold' events events where
  questions_eq := rfl
  entries_eq _ := rfl

/- Replies to the same question make no difference. -/
theorem alike_asked
    (question : Question)
    (reply reply' : Reply) :
    Alike threshold threshold' [.asked question reply]
      [.asked question reply'] where
  questions_eq := rfl
  entries_eq _ := rfl

/- The same entry is taken by logs of the same level. -/
theorem alike_note
    (threshold threshold' : Level)
    (entry : Entry) :
    Alike threshold threshold' (note threshold entry)
      (note threshold' entry) where
  questions_eq := by
    rw [questions_eq_map, questions_eq_map, exchanges_note,
      exchanges_note]
  entries_eq hThreshold := by
    rw [hThreshold]

theorem Alike.append
    {left right left' right' : List Event}
    (hFirst : Alike threshold threshold' left right)
    (hSecond : Alike threshold threshold' left' right') :
    Alike threshold threshold' (left ++ left')
      (right ++ right') where
  questions_eq := by
    unfold questions at *
    rw [List.filterMap_append, List.filterMap_append]
    exact congrArg₂ _ hFirst.questions_eq
      hSecond.questions_eq
  entries_eq hThreshold := by
    unfold entries at *
    rw [List.filterMap_append, List.filterMap_append]
    exact congrArg₂ _ (hFirst.entries_eq hThreshold)
      (hSecond.entries_eq hThreshold)

end Event

end Clearance

------------------------------------------------------------
-- Runs
------------------------------------------------------------

namespace Clearance

namespace Run

variable {σ τ α β : Type}

/- Runs with one result, linked states and like events. -/
structure Alike
    (link : σ → τ → Prop)
    (threshold threshold' : Level)
    (left : Run σ α)
    (right : Run τ α) : Prop where
  result_eq : left.result = right.result
  linked : link left.engine right.engine
  events :
    Event.Alike threshold threshold' left.events right.events

variable {link : σ → τ → Prop}
variable {threshold threshold' : Level}

theorem alike_quiet
    (result : Except Failure α)
    {state : σ}
    {state' : τ}
    (hLink : link state state') :
    Alike link threshold threshold' (quiet result state)
      (quiet result state') where
  result_eq := rfl
  linked := hLink
  events := Event.alike_refl []

namespace Alike

variable {left : Run σ α}
variable {right : Run τ α}

theorem mapResult
    (hAlike : Alike link threshold threshold' left right)
    (f : Except Failure α → Except Failure β) :
    Alike link threshold threshold' (left.mapResult f)
      (right.mapResult f) where
  result_eq := congrArg f hAlike.result_eq
  linked := hAlike.linked
  events := hAlike.events

theorem preceded
    (hAlike : Alike link threshold threshold' left right)
    {events events' : List Event}
    (hEvents :
      Event.Alike threshold threshold' events events') :
    Alike link threshold threshold' (left.preceded events)
      (right.preceded events') where
  result_eq := hAlike.result_eq
  linked := hAlike.linked
  events := hEvents.append hAlike.events

end Alike

end Run

end Clearance

------------------------------------------------------------
-- Audits
------------------------------------------------------------

namespace Clearance

namespace Audit

variable {σ τ : Type}
variable {link : σ → τ → Prop}
variable {engine : Engine σ}
variable {other : Engine τ}
variable (hMatches : engine.Matches link other)
variable (threshold threshold' : Level)

include hMatches

/- Surveys of matching engines are alike. -/
theorem survey_alike
    (privilege : Privilege)
    (actions : List Action)
    (outcomes : Outcomes)
    {state : σ}
    {state' : τ}
    (hLink : link state state') :
    Run.Alike link threshold threshold'
      (survey engine threshold privilege actions outcomes
        state)
      (survey other threshold' privilege actions outcomes
        state') := by
  induction actions generalizing outcomes state state' with
  | nil =>
      exact Run.alike_quiet (.ok outcomes) hLink
  | cons action rest ih =>
      have hReplies :=
        hMatches (privilege.question action) state state'
          hLink
      rcases hLeft :
          engine (privilege.question action) state with
        ⟨reply, next⟩
      rcases hRight :
          other (privilege.question action) state' with
        ⟨reply', next'⟩
      rw [hLeft, hRight] at hReplies
      rcases hReplies with ⟨hReply, hNext⟩
      -- The replies are of one kind, or they would differ.
      cases reply with
      | error fault =>
          cases reply' with
          | ok value => cases hReply
          | error fault' =>
              cases hReply
              rw [survey_of_error threshold rest outcomes
                  hLeft,
                survey_of_error threshold' rest outcomes
                  hRight]
              exact ⟨rfl, hNext, Event.alike_refl _⟩
      | ok value =>
          cases reply' with
          | error fault => cases hReply
          | ok value' =>
              have hHolds : value.holds = value'.holds :=
                Except.ok.inj hReply
              rw [survey_of_ok threshold rest outcomes hLeft,
                survey_of_ok threshold' rest outcomes hRight,
                hHolds]
              exact (ih _ hNext).preceded
                ((Event.alike_asked _ _ _).append
                  (Event.alike_note _ _ _))

variable (audit : Audit)
variable {state : σ}
variable {state' : τ}
variable (hLink : link state state')

include hLink

/- So are runs, and they leave the same audit. -/
theorem run_alike :
    Run.Alike link threshold threshold'
        (audit.run engine threshold state).1
        (audit.run other threshold' state').1 ∧
      (audit.run engine threshold state).2 =
        (audit.run other threshold' state').2 := by
  have hFirst :=
    survey_alike hMatches threshold threshold'
      audit.privilege audit.privilege.expected .empty hLink
  simp only [run]
  generalize survey engine threshold audit.privilege
    audit.privilege.expected .empty state = first at *
  generalize survey other threshold' audit.privilege
    audit.privilege.expected .empty state' = first' at *
  rw [hFirst.result_eq]
  cases first'.result with
  | error failure =>
      exact ⟨⟨rfl, hFirst.linked, hFirst.events⟩, rfl⟩
  | ok results =>
      have hSecond :=
        survey_alike hMatches threshold threshold'
          audit.privilege audit.privilege.denied .empty
          hFirst.linked
      have hEvents := hFirst.events.append hSecond.events
      dsimp only
      rw [hSecond.result_eq]
      cases (survey other threshold' audit.privilege
          audit.privilege.denied .empty
            first'.engine).result with
      | error failure =>
          exact ⟨⟨rfl, hSecond.linked, hEvents⟩, rfl⟩
      | ok negated =>
          exact ⟨⟨rfl, hSecond.linked, hEvents⟩, rfl⟩

/- So are calls. -/
theorem perform_alike
    (call : Call) :
    Run.Alike link threshold threshold'
        (audit.perform engine threshold call state).1
        (audit.perform other threshold' call state').1 ∧
      (audit.perform engine threshold call state).2 =
        (audit.perform other threshold' call state').2 := by
  cases call with
  | read reading =>
      exact ⟨Run.alike_quiet (audit.answer reading) hLink,
        rfl⟩
  | run =>
      rcases run_alike hMatches threshold threshold' audit
          hLink with
        ⟨hRun, hAfter⟩
      exact ⟨hRun.mapResult _, hAfter⟩

end Audit

end Clearance

------------------------------------------------------------
-- Expectations
------------------------------------------------------------

namespace Clearance

namespace Expectation

variable {σ τ : Type}
variable {link : σ → τ → Prop}
variable {engine : Engine σ}
variable {other : Engine τ}
variable (hMatches : engine.Matches link other)
variable (threshold threshold' : Level)
variable (expectation : Expectation)
variable {state : σ}
variable {state' : τ}
variable (hLink : link state state')

include hMatches hLink

/- Evaluations of matching engines are alike. -/
theorem evaluate_alike
    (target : Target) :
    Run.Alike link threshold threshold'
        (expectation.evaluate engine threshold target
          state).1
        (expectation.evaluate other threshold' target
          state').1 ∧
      (expectation.evaluate engine threshold target
          state).2 =
        (expectation.evaluate other threshold' target
          state').2 := by
  rcases Audit.run_alike hMatches threshold threshold'
      (Audit.start (expectation.privilegeFor target))
      hLink with
    ⟨hRun, hAudit⟩
  simp only [evaluate]
  rw [hRun.result_eq, hAudit]
  cases ((Audit.start (expectation.privilegeFor target)).run
      other threshold' state').1.result with
  | error failure =>
      exact ⟨⟨rfl, hRun.linked, hRun.events⟩, rfl⟩
  | ok findings =>
      exact ⟨⟨rfl, hRun.linked,
        hRun.events.append (Event.alike_note _ _ _)⟩, rfl⟩

/- So are steps, and they leave the same expectation. -/
theorem step_alike
    (taken : Step) :
    Run.Alike link threshold threshold'
        (expectation.step engine threshold taken state).1
        (expectation.step other threshold' taken state').1 ∧
      (expectation.step engine threshold taken state).2 =
        (expectation.step other threshold' taken
          state').2 := by
  cases taken with
  | withAction action =>
      exact ⟨Run.alike_quiet _ hLink, rfl⟩
  | withHelper name =>
      simp only [step]
      cases expectation.withHelper name with
      | ok turned => exact ⟨Run.alike_quiet _ hLink, rfl⟩
      | error failure =>
          exact ⟨Run.alike_quiet _ hLink, rfl⟩
  | evaluate purpose target =>
      rcases evaluate_alike hMatches threshold threshold'
          expectation hLink target with
        ⟨hRun, hAfter⟩
      simp only [step]
      rw [hAfter]
      exact ⟨hRun.mapResult _, rfl⟩
  | description =>
      exact ⟨Run.alike_quiet _ hLink, rfl⟩
  | failureMessage =>
      exact ⟨Run.alike_quiet _ hLink, rfl⟩
  | negatedFailureMessage =>
      exact ⟨Run.alike_quiet _ hLink, rfl⟩
  | audit call =>
      simp only [step]
      cases expectation.audit with
      | none => exact ⟨Run.alike_quiet _ hLink, rfl⟩
      | some audit =>
          rcases audit.perform_alike hMatches threshold
              threshold' hLink call with
            ⟨hRun, hAfter⟩
          dsimp only
          rw [hAfter]
          exact ⟨hRun, rfl⟩

end Expectation

end Clearance
