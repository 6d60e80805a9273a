import Clearance.Proofs.Simulation
import Clearance.Session

/-
  Expectations of one session do not disturb each other.

  A step on one expectation leaves the others alone, and all
  that it can change for them is the state of an engine that
  they share. If an expectation shares its engine with nobody,
  or if the engine follows a policy, then what is reported of
  it is the same as if the other steps had not been taken.

  Key definitions include:
    * `Session.AlikeFor`

  Key theorems include:
    * `Session.own_step_alike`
    * `Session.other_step_alike`
    * `Session.reports_alike`
    * `Session.reports_of_one`
-/

------------------------------------------------------------
-- Reports
------------------------------------------------------------

namespace Clearance

/- Runs that are alike are reported in the same way. -/
theorem Report.ofRun_eq
    {σ τ α : Type}
    {link : σ → τ → Prop}
    {log : Log}
    {left : Run σ Answer}
    {right : Run τ Answer}
    (hAlike :
      Run.Alike link log.threshold log.threshold left right)
    (after : α) :
    ofRun log left after = ofRun log right after := by
  unfold ofRun Log.kept
  rw [hAlike.result_eq, hAlike.events.questions_eq,
    hAlike.events.entries_eq rfl]

end Clearance

------------------------------------------------------------
-- Steps
------------------------------------------------------------

namespace Clearance

namespace Session

section

variable {α β : Type}
variable [DecidableEq α]

@[simp] theorem place_self
    (f : α → β)
    (index : α)
    (value : β) :
    place f index value index = value :=
  if_pos rfl

theorem place_of_ne
    (f : α → β)
    {index other : α}
    (value : β)
    (hNe : other ≠ index) :
    place f index value other = f other :=
  if_neg hNe

end

variable {ι κ σ : Type}

/-
  Two sessions have the same expectation at an index, and
  linked states of the engine of that expectation.
-/
structure AlikeFor
    (setting : Setting ι κ σ)
    (link : σ → σ → Prop)
    (index : ι)
    (left right : Session ι κ σ) : Prop where
  expectation_eq :
    left.expectation index = right.expectation index
  linked :
    link (left.state (setting.binding index))
      (right.state (setting.binding index))

variable [DecidableEq ι]
variable [DecidableEq κ]
variable {setting : Setting ι κ σ}
variable {link : σ → σ → Prop}
variable {index : ι}
variable {left right : Session ι κ σ}

/- A step of its own is reported alike, and keeps them so. -/
theorem own_step_alike
    (hMatches :
      (setting.engine (setting.binding index)).Matches link
        (setting.engine (setting.binding index)))
    (hAlike : AlikeFor setting link index left right)
    (taken : Expectation.Step) :
    (left.step setting index taken).1 =
        (right.step setting index taken).1 ∧
      AlikeFor setting link index
        (left.step setting index taken).2
        (right.step setting index taken).2 := by
  rcases Expectation.step_alike hMatches
      setting.log.threshold setting.log.threshold
      (left.expectation index) hAlike.linked taken with
    ⟨hRun, hAfter⟩
  simp only [step]
  rw [← hAlike.expectation_eq, ← hAfter]
  refine ⟨Report.ofRun_eq hRun _, ?_, ?_⟩
  · simp only [place_self]
  · simp only [place_self]
    exact hRun.linked

/-
  A step of another keeps them alike if any two states of a
  shared engine are linked.
-/
theorem other_step_alike
    {acting : ι}
    (hOther : acting ≠ index)
    (hShared :
      setting.binding acting = setting.binding index →
        ∀ state state', link state state')
    (hAlike : AlikeFor setting link index left right)
    (taken : Expectation.Step) :
    AlikeFor setting link index
      (left.step setting acting taken).2 right := by
  constructor
  · simp only [step]
    rw [place_of_ne _ _ hOther.symm]
    exact hAlike.expectation_eq
  · simp only [step]
    by_cases hBinding :
        setting.binding acting = setting.binding index
    · exact hShared hBinding _ _
    · rw [place_of_ne _ _ (Ne.symm hBinding)]
      exact hAlike.linked

end Session

end Clearance

------------------------------------------------------------
-- Sessions
------------------------------------------------------------

namespace Clearance

namespace Session

variable {ι κ σ : Type}
variable [DecidableEq ι]
variable [DecidableEq κ]

/- The reports on one expectation, among all of a session. -/
theorem reports_alike
    {setting : Setting ι κ σ}
    {link : σ → σ → Prop}
    {index : ι}
    (hMatches :
      (setting.engine (setting.binding index)).Matches link
        (setting.engine (setting.binding index)))
    (hShared :
      ∀ acting, acting ≠ index →
        setting.binding acting = setting.binding index →
          ∀ state state', link state state')
    (steps : List (ι × Expectation.Step))
    {left right : Session ι κ σ}
    (hAlike : AlikeFor setting link index left right) :
    (reports setting steps left).filter
        (fun reported => reported.1 = index) =
      reports setting
        (steps.filter fun taken => taken.1 = index)
        right := by
  induction steps generalizing left right with
  | nil =>
      rfl
  | cons head rest ih =>
      rcases head with ⟨acting, taken⟩
      by_cases hOwn : acting = index
      · subst hOwn
        rcases own_step_alike hMatches hAlike taken with
          ⟨hReport, hNext⟩
        rw [List.filter_cons_of_pos (by simp), reports,
          reports, List.filter_cons_of_pos (by simp),
          hReport, ih hNext]
      · have hNext :=
          other_step_alike hOwn (hShared acting hOwn) hAlike
            taken
        rw [List.filter_cons_of_neg (by simpa using hOwn),
          reports,
          List.filter_cons_of_neg (by simpa using hOwn),
          ih hNext]

/-
  If no other expectation is bound to its engine, or if that
  engine follows a policy, then the reports on an expectation
  are those of the session in which only its own steps are
  taken: the same results or failures, questions, log entries
  and expectations left behind, in the same order.
-/
theorem reports_of_one
    (setting : Setting ι κ σ)
    (index : ι)
    (hApart :
      (∃ policy,
        (setting.engine (setting.binding index)).Follows
          policy) ∨
        ∀ other, other ≠ index →
          setting.binding other ≠ setting.binding index)
    (steps : List (ι × Expectation.Step))
    (session : Session ι κ σ) :
    (reports setting steps session).filter
        (fun reported => reported.1 = index) =
      reports setting
        (steps.filter fun taken => taken.1 = index)
        session := by
  rcases hApart with ⟨policy, hFollows⟩ | hUnshared
  · exact reports_alike hFollows.matches_self
      (fun _ _ _ _ _ => trivial) steps ⟨rfl, trivial⟩
  · exact reports_alike (Engine.matches_self _)
      (fun acting hOther hBinding =>
        absurd hBinding (hUnshared acting hOther))
      steps ⟨rfl, rfl⟩

/-
  Two readers share an engine that only lets them index, and a
  writer has a script alone, which raises a fault as its third
  reply. Whatever the others do, the readers differ by their
  own steps only, and the writer is stopped at the third reply.
-/
theorem reports_of_one_among_three :
    let fault : Fault := ⟨.lookup, "third"⟩
    let setting : Setting (Fin 3) Bool Nat :=
      { engine := fun scripted =>
          if scripted then
            (Rulebook.script (.ok (.flag true))
              [.ok .null, .error fault]).engine
          else
            (Rulebook.allow ["index"]).engine
        binding := fun index => index = 2
        log := some .debug }
    let session : Session (Fin 3) Bool Nat :=
      { state := fun _ => 0
        expectation := fun _ => .fresh "guest" }
    let posts : Target := .itself ⟨"Posts", "Posts"⟩
    let steps : List (Fin 3 × Expectation.Step) :=
      [(2, .evaluate .verdict posts),
        (0, .withHelper "to_read"),
        (1, .evaluate .assertForbidden posts),
        (2, .withHelper "to_update"),
        (0, .evaluate .verdict posts),
        (2, .evaluate .assertPermitted posts),
        (1, .withHelper "to_nothing"),
        (0, .failureMessage),
        (2, .audit (.read .results))]
    let results := fun index =>
      ((reports setting steps session).filter
        fun reported => reported.1 = index).map
          fun reported => reported.2.result
    results 0 =
        [.ok .itself, .ok (.verdict .mixed),
          .ok (.text
            ("Expected Posts to have permission for guest " ++
              "to read. results: \x7b'index': True, " ++
              "'show': False\x7d, " ++
              "negated_results: \x7b\x7d"))] ∧
      results 2 =
        [.ok (.verdict .permitted), .ok .itself,
          .error (.raised fault), .error .notRun] := by
  intro fault setting session posts steps results
  have hReaders :
      (setting.engine false).Follows fun question =>
        .ok (["index"].contains question.action) :=
    Rulebook.follows fun _ _ => rfl
  constructor
  · simp only [results]
    rw [reports_of_one setting 0 (.inl ⟨_, hReaders⟩) steps
      session]
    decide
  · simp only [results]
    rw [reports_of_one setting 2 (.inr (by decide)) steps
      session]
    decide

end Session

end Clearance
