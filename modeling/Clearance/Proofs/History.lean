import Clearance.Answer
import Clearance.Journal

/-
  Histories of a subject that asks a rule engine.

  A subject is anything on which steps can be taken, one of
  them after another: an expectation, or an audit. Between
  two of its steps, others may use the same engine and leave
  it in any state.

  Key definitions include:
    * `Occurrence`
    * `History.next`
    * `History.after`
    * `History.responses`

  Key theorems include:
    * `History.invariant`
-/

------------------------------------------------------------
-- Occurrences
------------------------------------------------------------

namespace Clearance

/- What happens next in the history of a subject. -/
inductive Occurrence (τ σ : Type) where
  /- A step is taken on the subject. -/
  | own (taken : τ)
  /- Others use the engine and leave it in a state. -/
  | elsewhere (left : σ)

namespace Occurrence

variable {τ σ : Type}

/- The step on the subject, if there is one. -/
def own? : Occurrence τ σ → Option τ
  | .own taken => some taken
  | .elsewhere _ => none

end Occurrence

end Clearance

------------------------------------------------------------
-- Histories
------------------------------------------------------------

namespace Clearance

namespace History

variable {α τ σ : Type}

/- The subject and the engine after what happens next. -/
def next
    (take : α → τ → σ → Run σ Answer × α)
    (now : α × σ) : Occurrence τ σ → α × σ
  | .own taken =>
    let (run, after) := take now.1 taken now.2
    (after, run.engine)
  | .elsewhere left => (now.1, left)

/- The subject and the engine after a history. -/
def after
    (take : α → τ → σ → Run σ Answer × α)
    (history : List (Occurrence τ σ))
    (now : α × σ) : α × σ :=
  history.foldl (next take) now

/- The steps of a history, each with what came of it. -/
def responses
    (take : α → τ → σ → Run σ Answer × α) :
    List (Occurrence τ σ) →
    α × σ →
    List (τ × Run σ Answer)
  | [], _ => []
  | .own taken :: rest, now =>
    (taken, (take now.1 taken now.2).1) ::
      responses take rest (next take now (.own taken))
  | .elsewhere left :: rest, now =>
    responses take rest (next take now (.elsewhere left))

variable (take : α → τ → σ → Run σ Answer × α)

@[simp] theorem after_nil
    (now : α × σ) :
    after take [] now = now :=
  rfl

@[simp] theorem after_cons
    (occurrence : Occurrence τ σ)
    (rest : List (Occurrence τ σ))
    (now : α × σ) :
    after take (occurrence :: rest) now =
      after take rest (next take now occurrence) :=
  rfl

/- What every step keeps is kept by a history. -/
theorem invariant
    {property : α → Prop}
    (hStep :
      ∀ subject taken state,
        property subject →
          property (take subject taken state).2)
    (history : List (Occurrence τ σ))
    {now : α × σ}
    (hNow : property now.1) :
    property (after take history now).1 := by
  induction history generalizing now with
  | nil =>
      exact hNow
  | cons occurrence rest ih =>
      cases occurrence with
      | own taken =>
          exact ih (hStep now.1 taken now.2 hNow)
      | elsewhere left =>
          exact ih hNow

end History

end Clearance
