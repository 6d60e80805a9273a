import Clearance.Proofs.Expectation.Step
import Clearance.Proofs.History

/-
  What is left of the history of an expectation.

  An evaluation reads the role and the intent of an
  expectation and nothing else, so that of a whole history
  only the last turn can be seen in it.

  Key definitions include:
    * `Expectation.lastTurn?`
    * `Expectation.lastIntent?`
    * `Expectation.reached`

  Key theorems include:
    * `Expectation.intent_after_history`
    * `Expectation.formed_reached`
    * `Expectation.evaluation_after_history`
-/

------------------------------------------------------------
-- The Last Turn
------------------------------------------------------------

namespace Clearance

namespace Expectation

variable {σ : Type}

/- The last step that turned an expectation. -/
def lastTurn?
    (history : List (Occurrence Step σ)) : Option Step :=
  (history.filterMap Occurrence.own?).reverse.find?
    fun taken => taken.turned?.isSome

/- A later turn goes before an earlier one. -/
theorem lastTurn?_own
    (taken : Step)
    (rest : List (Occurrence Step σ)) :
    lastTurn? (.own taken :: rest) =
      (lastTurn? rest).or
        (if taken.turned?.isSome then
          some taken
        else
          none) := by
  simp only [lastTurn?, Occurrence.own?,
    List.filterMap_cons, List.reverse_cons,
    List.find?_append, List.find?_singleton]

/- The last turn turns an expectation to some intent. -/
theorem exists_turned?_of_lastTurn?
    {history : List (Occurrence Step σ)}
    {taken : Step}
    (hLast : lastTurn? history = some taken) :
    ∃ intent, taken.turned? = some intent := by
  have hSome :=
    List.find?_some
      (p := fun taken : Step => taken.turned?.isSome) hLast
  exact Option.isSome_iff_exists.mp hSome

/- The intent of the last turn. -/
def lastIntent?
    (history : List (Occurrence Step σ)) : Option Intent :=
  (lastTurn? history).bind Step.turned?

/- A later intent goes before an earlier one. -/
theorem lastIntent?_own
    (taken : Step)
    (rest : List (Occurrence Step σ)) :
    lastIntent? (.own taken :: rest) =
      (lastIntent? rest).or taken.turned? := by
  unfold lastIntent?
  rw [lastTurn?_own]
  cases hRest : lastTurn? rest with
  | none =>
      cases hTurned : taken.turned? with
      | none => simp
      | some intent => simp [hTurned]
  | some last =>
      rcases exists_turned?_of_lastTurn? hRest with
        ⟨intent, hIntent⟩
      simp [hIntent]

/- Of a whole history the last turn alone has the intent. -/
theorem lastIntent?_lastTurn?
    (history : List (Occurrence Step σ)) :
    lastIntent?
        ((lastTurn? history).toList.map
          (Occurrence.own (σ := σ))) =
      lastIntent? history := by
  unfold lastIntent?
  cases hLast : lastTurn? history with
  | none =>
      rfl
  | some taken =>
      rcases exists_turned?_of_lastTurn? hLast with
        ⟨intent, hIntent⟩
      simp [lastTurn?, Occurrence.own?, hIntent]

variable (engine : Engine σ)
variable (threshold : Level)

/- The last turn determines the intent. -/
theorem intent_after_history
    (history : List (Occurrence Step σ))
    (now : Expectation × σ) :
    (History.after (step engine threshold) history
        now).1.intent =
      (lastIntent? history).getD now.1.intent := by
  induction history generalizing now with
  | nil =>
      rfl
  | cons occurrence rest ih =>
      rw [History.after_cons, ih]
      cases occurrence with
      | elsewhere left =>
          rfl
      | own taken =>
          have hNext :
              (History.next (step engine threshold) now
                (.own taken)).1.intent =
                taken.turned?.getD now.1.intent :=
            (step_became engine threshold now.1 taken
              now.2).intent_eq
          rw [hNext, lastIntent?_own]
          cases lastIntent? rest with
          | none => rfl
          | some intent => rfl

/- The role stays as it was. -/
theorem role_after_history
    (history : List (Occurrence Step σ))
    (now : Expectation × σ) :
    (History.after (step engine threshold) history
      now).1.role = now.1.role :=
  History.invariant (step engine threshold)
    (fun expectation taken state hRole =>
      (step_became engine threshold expectation taken
        state).role_eq.trans hRole)
    history rfl

end Expectation

end Clearance

------------------------------------------------------------
-- Reached Expectations
------------------------------------------------------------

namespace Clearance

namespace Expectation

variable {σ : Type}

/-
  The expectation to which a history leads from the fresh
  expectation of a role, and the engine at that time.
-/
def reached
    (engine : Engine σ)
    (threshold : Level)
    (role : Role)
    (start : σ)
    (history : List (Occurrence Step σ)) :
    Expectation × σ :=
  History.after (step engine threshold) history
    (fresh role, start)

variable (engine : Engine σ)
variable (threshold : Level)
variable (role : Role)
variable (start : σ)
variable (history : List (Occurrence Step σ))

/- A reached expectation has the intent of the last turn. -/
theorem intent_reached :
    (reached engine threshold role start
        history).1.intent =
      (lastIntent? history).getD .initial :=
  intent_after_history engine threshold history
    (fresh role, start)

/- A reached expectation has its first role. -/
theorem role_reached :
    (reached engine threshold role start history).1.role =
      role :=
  role_after_history engine threshold history
    (fresh role, start)

/- The parts of a reached intent belong together. -/
theorem formed_reached :
    (reached engine threshold role start
      history).1.intent.Formed := by
  rw [intent_reached]
  cases hLast : lastIntent? history with
  | none =>
      exact .action "index"
  | some intent =>
      rcases Option.bind_eq_some_iff.mp hLast with
        ⟨taken, _, hTurned⟩
      exact formed_of_turned hTurned

end Expectation

end Clearance

------------------------------------------------------------
-- Evaluation After A History
------------------------------------------------------------

namespace Clearance

namespace Expectation

variable {σ : Type}

/- A turn asks nothing. -/
theorem state_reached_of_turn
    (engine : Engine σ)
    (threshold : Level)
    (role : Role)
    (state : σ)
    {taken : Step}
    {intent : Intent}
    (hTurned : taken.turned? = some intent) :
    (reached engine threshold role state
      [.own taken]).2 = state := by
  simp only [reached, History.after_cons,
    History.after_nil, History.next,
    step_of_turned engine threshold (fresh role) state
      hTurned]
  rfl

/-
  After any history, an evaluation is the same run, with the
  same result, exchanges, log entries and expectation left
  behind, as that of a fresh expectation of the role which
  was turned once, by the last turn of the history.
-/
theorem evaluation_after_history
    (engine : Engine σ)
    (threshold : Level)
    (role : Role)
    (start : σ)
    (history : List (Occurrence Step σ))
    (purpose : Purpose)
    (target : Target) :
    let now := reached engine threshold role start history
    let rebuilt :=
      reached engine threshold role now.2
        ((lastTurn? history).toList.map .own)
    rebuilt.2 = now.2 ∧
      now.1.step engine threshold
          (.evaluate purpose target) now.2 =
        rebuilt.1.step engine threshold
          (.evaluate purpose target) rebuilt.2 := by
  intro now rebuilt
  have hState : rebuilt.2 = now.2 := by
    cases hLast : lastTurn? history with
    | none =>
        simp only [rebuilt, hLast]
        rfl
    | some taken =>
        rcases exists_turned?_of_lastTurn? hLast with
          ⟨intent, hTurned⟩
        simp only [rebuilt, hLast]
        exact state_reached_of_turn engine threshold role
          now.2 hTurned
  have hIntent : now.1.intent = rebuilt.1.intent := by
    rw [intent_reached, intent_reached,
      lastIntent?_lastTurn?]
  have hRole : now.1.role = rebuilt.1.role := by
    rw [role_reached, role_reached]
  refine ⟨hState, ?_⟩
  rw [hState]
  simp only [step,
    evaluate_congr engine threshold target now.2 hRole
      hIntent]

end Expectation

end Clearance
