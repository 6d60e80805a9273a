import Clearance.Proofs.Audit.History
import Clearance.Proofs.Expectation.Purpose
import Clearance.Proofs.Expectation.Turning
import Clearance.Proofs.Helper

/-
  What is reported after a history.

  A report speaks of the last turn of an expectation and of
  the audit of its latest evaluation, whichever of the two
  came later. The results are those of the latest runs of
  that audit, be it by the evaluation or by direct calls, and
  there is nothing to report before one of them is completed.

  Key definitions include:
    * `Run.Completed`
    * `Expectation.wording`
    * `Expectation.Evaluation`
    * `Expectation.latestEvaluation?`
    * `Audit.Holds`
    * `Expectation.Tracks`

  Key theorems include:
    * `Expectation.phrase_reached`
    * `Audit.Holds.concat`
    * `Expectation.tracks_step`
    * `Expectation.tracks_reached`
    * `Expectation.report_of_completed`
    * `Expectation.failure_messages_after_history`
-/

------------------------------------------------------------
-- Wording
------------------------------------------------------------

namespace Clearance

namespace Expectation

variable {σ : Type}

/-
  The words for the last turn of an expectation, if any. The
  name of a helper has a space for each underscore.
-/
def wording : Option Step → String
  | some (.withHelper name) =>
    String.ofList
      (name.toList.map fun c => if c = '_' then ' ' else c)
  | some (.withAction action) => "to " ++ action
  | _ => "to index"

/- A reached expectation is worded by its last turn. -/
theorem phrase_reached
    (engine : Engine σ)
    (threshold : Level)
    (role : Role)
    (start : σ)
    (history : List (Occurrence Step σ)) :
    (reached engine threshold role start
        history).1.intent.phrase =
      wording (lastTurn? history) := by
  rw [intent_reached, lastIntent?]
  cases hLast : lastTurn? history with
  | none =>
      decide
  | some taken =>
      rcases exists_turned?_of_lastTurn? hLast with
        ⟨intent, hTurned⟩
      rw [Option.bind_some, hTurned, Option.getD_some]
      cases taken with
      | withAction action =>
          cases hTurned
          rfl
      | withHelper name =>
          rcases Option.map_eq_some_iff.mp hTurned with
            ⟨helper, hName, hIntent⟩
          rw [← hIntent, wording,
            ← Helper.name_of_ofName? hName]
          rfl
      | evaluate purpose target => cases hTurned
      | description => cases hTurned
      | failureMessage => cases hTurned
      | negatedFailureMessage => cases hTurned
      | audit call => cases hTurned

end Expectation

end Clearance

------------------------------------------------------------
-- The Latest Evaluation
------------------------------------------------------------

namespace Clearance

/-
  A run was completed if no fault was raised in it. One that
  fails by an assertion that does not hold was completed.
-/
def Run.Completed
    {σ α : Type}
    (run : Run σ α) : Prop :=
  ∀ fault, run.result ≠ .error (.raised fault)

namespace Expectation

variable {σ : Type}

/-
  An evaluation in front of a target, with the runs of the
  audit that it made, of which its own is the first.
-/
structure Evaluation (σ : Type) where
  target : Target
  runs : List (Run σ Answer)

/-
  The latest evaluation after one more step: an evaluation
  starts anew, and a direct run adds to the runs.
-/
def Evaluation.next
    (latest : Option (Evaluation σ))
    (response : Step × Run σ Answer) :
    Option (Evaluation σ) :=
  match response.1 with
  | .evaluate _ target => some ⟨target, [response.2]⟩
  | .audit .run =>
    latest.map fun evaluation =>
      { evaluation with
        runs := evaluation.runs ++ [response.2] }
  | _ => latest

/- The latest evaluation among steps, if there is one. -/
def latestEvaluation?
    (responses : List (Step × Run σ Answer)) :
    Option (Evaluation σ) :=
  responses.foldl Evaluation.next none

/- A step that is no evaluation does not make the first. -/
theorem Evaluation.next_eq_none_iff
    (latest : Option (Evaluation σ))
    (response : Step × Run σ Answer) :
    next latest response = none ↔
      latest = none ∧
        ∀ purpose target,
          response.1 ≠ .evaluate purpose target := by
  rcases response with ⟨taken, run⟩
  cases taken with
  | audit call =>
      cases call with
      | run => simp [next]
      | read reading => simp [next]
  | _ => simp [next]

/- The steps of the responses are those of the history. -/
theorem steps_responses
    {α τ : Type}
    (take : α → τ → σ → Run σ Answer × α)
    (history : List (Occurrence τ σ))
    (now : α × σ) :
    (History.responses take history now).map Prod.fst =
      history.filterMap Occurrence.own? := by
  induction history generalizing now with
  | nil =>
      rfl
  | cons occurrence rest ih =>
      cases occurrence with
      | own taken =>
          rw [History.responses, List.map_cons, ih]
          rfl
      | elsewhere left =>
          rw [History.responses, ih]
          rfl

/- There is a latest evaluation if there is any. -/
theorem latestEvaluation?_eq_none_iff
    (responses : List (Step × Run σ Answer)) :
    latestEvaluation? responses = none ↔
      ∀ response ∈ responses, ∀ purpose target,
        response.1 ≠ .evaluate purpose target := by
  have hFold (latest : Option (Evaluation σ)) :
      responses.foldl Evaluation.next latest = none ↔
        latest = none ∧
          ∀ response ∈ responses, ∀ purpose target,
            response.1 ≠ .evaluate purpose target := by
    induction responses generalizing latest with
    | nil =>
        simp
    | cons response rest ih =>
        rw [List.foldl_cons, ih, Evaluation.next_eq_none_iff,
          List.forall_mem_cons, and_assoc]
  rw [latestEvaluation?, hFold, and_iff_right rfl]

/- In particular, if there is any in a history. -/
theorem latestEvaluation?_responses_eq_none_iff
    {α : Type}
    (take : α → Step → σ → Run σ Answer × α)
    (history : List (Occurrence Step σ))
    (now : α × σ) :
    latestEvaluation? (History.responses take history now) =
        none ↔
      ∀ purpose target,
        Occurrence.own (.evaluate purpose target) ∉
          history := by
  have hSteps := steps_responses take history now
  rw [latestEvaluation?_eq_none_iff]
  constructor
  · intro hNone purpose target hMem
    have hOwn :
        Step.evaluate purpose target ∈
          history.filterMap Occurrence.own? :=
      List.mem_filterMap.mpr ⟨_, hMem, rfl⟩
    rw [← hSteps] at hOwn
    rcases List.mem_map.mp hOwn with
      ⟨response, hResponse, hStep⟩
    exact hNone response hResponse purpose target hStep
  · intro hNone response hResponse purpose target hStep
    have hOwn := List.mem_map_of_mem hResponse (f := Prod.fst)
    rw [hSteps, hStep] at hOwn
    rcases List.mem_filterMap.mp hOwn with
      ⟨occurrence, hMem, hOccurrence⟩
    cases occurrence with
    | own taken =>
        cases hOccurrence
        exact hNone purpose target hMem
    | elsewhere left =>
        cases hOccurrence

end Expectation

end Clearance

------------------------------------------------------------
-- Audits And Their Runs
------------------------------------------------------------

namespace Clearance

namespace Audit

variable {σ : Type}

/- The last of all runs goes before the others. -/
theorem latest?_concat
    (part? : List Exchange → Option (List Exchange))
    (runs : List (Run σ Answer))
    (run : Run σ Answer) :
    latest? part? (runs ++ [run]) =
      (part? (Event.exchanges run.events)).or
        (latest? part? runs) := by
  rw [latest?, List.reverse_concat, List.findSome?_cons]
  cases part? (Event.exchanges run.events) with
  | none => rfl
  | some part => rfl

/- An audit holds what its runs have found. -/
structure Holds
    (audit : Audit)
    (runs : List (Run σ Answer)) : Prop where
  results_eq :
    audit.results =
      (latest? (expectedPart? audit.privilege) runs).map
        .ofExchanges
  negated_eq :
    audit.negated =
      (latest? (deniedPart? audit.privilege) runs).map
        .ofExchanges
  completed_iff :
    ∀ run ∈ runs,
      (deniedPart? audit.privilege
          (Event.exchanges run.events)).isSome ↔
        run.Completed

/- A new audit holds nothing. -/
theorem holds_start
    (privilege : Privilege) :
    (start privilege).Holds ([] : List (Run σ Answer)) where
  results_eq := rfl
  negated_eq := rfl
  completed_iff := by simp

namespace Holds

variable {audit : Audit}
variable {runs : List (Run σ Answer)}

/-
  One more run, by whichever step it was made: all that
  counts are its exchanges, and if it was completed.
-/
theorem concat
    (hHolds : audit.Holds runs)
    {engine : Engine σ}
    {threshold : Level}
    {state : σ}
    {run : Run σ Answer}
    (hAsked :
      Event.exchanges run.events =
        Event.exchanges
          (audit.run engine threshold state).1.events)
    (hCompleted :
      run.Completed ↔
        ∃ findings,
          (audit.run engine threshold state).1.result =
            .ok findings) :
    (audit.run engine threshold state).2.Holds
      (runs ++ [run]) := by
  have hRan := run_ran engine threshold audit state
  constructor
  · rw [hRan.results_eq, hRan.privilege_eq, latest?_concat,
      hHolds.results_eq, hAsked, Option.map_or]
  · rw [hRan.negated_eq, hRan.privilege_eq, latest?_concat,
      hHolds.negated_eq, hAsked, Option.map_or]
  · intro other hMem
    rw [hRan.privilege_eq]
    rcases List.mem_append.mp hMem with hOld | hNew
    · exact hHolds.completed_iff other hOld
    · rw [List.mem_singleton.mp hNew, hAsked, hCompleted]
      exact hRan.isSome_deniedPart?_iff

/- A completed run covers the denied actions. -/
theorem isSome_denied_iff
    (hHolds : audit.Holds runs) :
    (latest? (deniedPart? audit.privilege) runs).isSome ↔
      ∃ run ∈ runs, run.Completed :=
  isSome_latest?_iff_of_forall hHolds.completed_iff

/-
  If some run was completed, the tables of the latest parts
  can be read.
-/
theorem read_of_completed
    (hHolds : audit.Holds runs)
    (hCompleted : ∃ run ∈ runs, run.Completed) :
    ∃ first second,
      latest? (expectedPart? audit.privilege) runs =
          some first ∧
        latest? (deniedPart? audit.privilege) runs =
          some second ∧
        audit.read =
          .ok ⟨.ofExchanges first, .ofExchanges second⟩ :=
  read_of_latest? hHolds.results_eq hHolds.negated_eq
    (hHolds.isSome_denied_iff.mpr hCompleted)

/- If none was completed, there is nothing to read. -/
theorem read_of_not_completed
    (hHolds : audit.Holds runs)
    (hNot : ¬ ∃ run ∈ runs, run.Completed) :
    audit.read = .error .notRun := by
  rw [← hHolds.isSome_denied_iff,
    Option.not_isSome_iff_eq_none] at hNot
  have hNegated : audit.negated = none := by
    rw [hHolds.negated_eq, hNot]
    rfl
  have hFindings : audit.findings = none :=
    audit.findings_eq_none_iff.mpr (Or.inr hNegated)
  simp only [read, hFindings]

end Holds

/- A direct run is completed if there are findings. -/
theorem completed_run_iff
    (engine : Engine σ)
    (threshold : Level)
    (audit : Audit)
    (state : σ) :
    (audit.perform engine threshold .run state).1.Completed ↔
      ∃ findings,
        (audit.run engine threshold state).1.result =
          .ok findings := by
  have hRan := run_ran engine threshold audit state
  have hResult :
      (audit.perform engine threshold .run
          state).1.result =
        (audit.run engine threshold state).1.result.map
          fun _ => .nothing :=
    rfl
  rw [Run.Completed, hResult]
  cases hFault :
      Exchange.firstFault?
        (Event.exchanges
          (audit.run engine threshold state).1.events) with
  | some fault =>
      rw [hRan.result_of_fault hFault]
      simp [Except.map]
  | none =>
      rcases hRan.of_faultless hFault with
        ⟨first, second, _, _, _, hFound, _⟩
      rw [hFound]
      simp [Except.map]

end Audit

end Clearance

------------------------------------------------------------
-- The Audit Of The Latest Evaluation
------------------------------------------------------------

namespace Clearance

namespace Expectation

variable {σ : Type}

/-
  The audit is that of the latest evaluation, and holds what
  the runs since then have found.
-/
inductive Tracks :
    Option (Evaluation σ) → Option Audit → Prop where
  | neither : Tracks none none
  | both
      {audit : Audit}
      {evaluation : Evaluation σ}
      (hController :
        audit.privilege.controller =
          evaluation.target.controller)
      (hHolds : audit.Holds evaluation.runs) :
    Tracks (some evaluation) (some audit)

variable (engine : Engine σ)
variable (threshold : Level)

/- An evaluation comes to a verdict if there are findings. -/
theorem exists_verdict_iff
    (expectation : Expectation)
    (target : Target)
    (state : σ) :
    (∃ verdict,
        (expectation.evaluate engine threshold target
          state).1.result = .ok verdict) ↔
      ∃ findings,
        ((Audit.start
          (expectation.privilegeFor target)).run engine
            threshold state).1.result = .ok findings := by
  rw [result_evaluate]
  cases ((Audit.start
    (expectation.privilegeFor target)).run engine
      threshold state).1.result with
  | error failure => simp [Except.map]
  | ok findings => simp [Except.map]

/- An evaluation step is completed if there are findings. -/
theorem completed_evaluate_iff
    (expectation : Expectation)
    (purpose : Purpose)
    (target : Target)
    (state : σ) :
    (expectation.step engine threshold
        (.evaluate purpose target) state).1.Completed ↔
      ∃ findings,
        ((Audit.start
          (expectation.privilegeFor target)).run engine
            threshold state).1.result = .ok findings := by
  rcases evaluate_evaluated engine threshold expectation
      target state with
    ⟨audit, hAudit, hEvaluated⟩
  rw [Run.Completed, result_step_evaluate,
    ← exists_verdict_iff]
  generalize Event.exchanges
    (expectation.evaluate engine threshold target
      state).1.events = asked at hEvaluated
  generalize (expectation.evaluate engine threshold target
    state).1.result = result at hEvaluated ⊢
  cases hEvaluated with
  | @failed _ fault _ hFault =>
      constructor
      · intro hCompleted
        exact absurd rfl (hCompleted fault)
      · rintro ⟨verdict, hVerdict⟩
        cases hVerdict
  | judged hFirst hSecond hFaultless hPrivilege hRead =>
      constructor
      · intro _
        exact ⟨_, rfl⟩
      · intro _ fault
        rw [Except.bind,
          purpose.answer_of_reports
            (report_of_read hAudit hRead "Expected ")
            (report_of_read hAudit hRead
              "Did not expect ")]
        cases purpose with
        | assertPermitted => dsimp only; split <;> simp
        | assertForbidden => dsimp only; split <;> simp
        | _ => simp

/- An evaluation leaves the audit that it has made. -/
theorem tracks_evaluate
    (expectation : Expectation)
    (purpose : Purpose)
    (target : Target)
    (state : σ) :
    Tracks
      (some
        ⟨target,
          [(expectation.step engine threshold
            (.evaluate purpose target) state).1]⟩)
      (expectation.step engine threshold
        (.evaluate purpose target) state).2.audit := by
  have hAfter :
      (expectation.step engine threshold
          (.evaluate purpose target) state).2.audit =
        some
          ((Audit.start (expectation.privilegeFor target)).run
            engine threshold state).2 := by
    simp only [step, after_evaluate]
  rw [hAfter]
  apply Tracks.both
  · rw [(Audit.run_ran engine threshold
      (Audit.start (expectation.privilegeFor target))
      state).privilege_eq]
    rfl
  · exact
      (Audit.holds_start
        (expectation.privilegeFor target)).concat
        (exchanges_evaluate engine threshold expectation
          target state)
        (completed_evaluate_iff engine threshold expectation
          purpose target state)

/- A call on an audit keeps track of its runs. -/
theorem tracks_call
    {expectation : Expectation}
    {latest : Option (Evaluation σ)}
    (hTracks : Tracks latest expectation.audit)
    (call : Audit.Call)
    (state : σ) :
    Tracks
      (Evaluation.next latest
        (.audit call,
          (expectation.step engine threshold (.audit call)
            state).1))
      (expectation.step engine threshold (.audit call)
        state).2.audit := by
  cases hAudit : expectation.audit with
  | none =>
      rw [hAudit] at hTracks
      cases hTracks
      simp only [step, hAudit]
      cases call with
      | run => exact .neither
      | read reading => exact .neither
  | some audit =>
      rw [hAudit] at hTracks
      cases hTracks with
      | both hController hHolds =>
          simp only [step, hAudit]
          cases call with
          | read reading =>
              rw [Audit.perform_read]
              exact .both hController hHolds
          | run =>
              apply Tracks.both
              · rw [← hController]
                exact congrArg Privilege.controller
                  (Audit.run_ran engine threshold audit
                    state).privilege_eq
              · exact hHolds.concat rfl
                  (Audit.completed_run_iff engine threshold
                    audit state)

/- Only an evaluation or a call changes the audit. -/
theorem Became.audit_eq
    {engine : Engine σ}
    {threshold : Level}
    {before after : Expectation}
    {state : σ}
    {taken : Step}
    (hBecame :
      Became engine threshold before state taken after)
    (hEvaluate :
      ∀ purpose target, taken ≠ .evaluate purpose target)
    (hCall : ∀ call, taken ≠ .audit call) :
    after.audit = before.audit := by
  cases hBecame with
  | turned hTurned => rfl
  | evaluated purpose target =>
      exact absurd rfl (hEvaluate purpose target)
  | called call hAudit => exact absurd rfl (hCall call)
  | kept hTurned hEvaluate hCall => rfl

/- Every step keeps track of the latest evaluation. -/
theorem tracks_step
    {expectation : Expectation}
    {latest : Option (Evaluation σ)}
    (hTracks : Tracks latest expectation.audit)
    (taken : Step)
    (state : σ) :
    Tracks
      (Evaluation.next latest
        (taken,
          (expectation.step engine threshold taken state).1))
      (expectation.step engine threshold taken
        state).2.audit := by
  cases taken with
  | evaluate purpose target =>
      exact tracks_evaluate engine threshold expectation
        purpose target state
  | audit call =>
      exact tracks_call engine threshold hTracks call state
  | _ =>
      rw [(step_became engine threshold expectation _
        state).audit_eq (by simp) (by simp)]
      exact hTracks

/- So does a history. -/
theorem tracks_after_history
    (history : List (Occurrence Step σ))
    (now : Expectation × σ)
    {latest : Option (Evaluation σ)}
    (hTracks : Tracks latest now.1.audit) :
    Tracks
      ((History.responses (step engine threshold) history
        now).foldl Evaluation.next latest)
      (History.after (step engine threshold) history
        now).1.audit := by
  induction history generalizing now latest with
  | nil =>
      exact hTracks
  | cons occurrence rest ih =>
      cases occurrence with
      | own taken =>
          exact ih _
            (tracks_step engine threshold hTracks taken now.2)
      | elsewhere left =>
          exact ih _ hTracks

/- The audit reached is that of the latest evaluation. -/
theorem tracks_reached
    (role : Role)
    (start : σ)
    (history : List (Occurrence Step σ)) :
    Tracks
      (latestEvaluation?
        (History.responses (step engine threshold) history
          (fresh role, start)))
      (reached engine threshold role start
        history).1.audit :=
  tracks_after_history engine threshold history
    (fresh role, start) .neither

end Expectation

end Clearance

------------------------------------------------------------
-- Reports After A History
------------------------------------------------------------

namespace Clearance

namespace Expectation

variable {σ : Type}

/- A report in full. -/
theorem report_in_full
    {expectation : Expectation}
    {audit : Audit}
    {results negated : Outcomes}
    (hAudit : expectation.audit = some audit)
    (hRead : audit.read = .ok ⟨results, negated⟩)
    (opening : String) :
    expectation.report opening =
      .ok
        (opening ++
          audit.privilege.controller.qualifiedName ++
          " to have permission for " ++ expectation.role ++
          " " ++ expectation.intent.phrase ++
          ". results: " ++ Text.table results.entries ++
          ", negated_results: " ++
          Text.table negated.entries) := by
  have hWords :
      " to " ++ "have permission for " =
        " to have permission for " :=
    rfl
  have hAppend (rest : String) :
      " to " ++ ("have permission for " ++ rest) =
        " to have permission for " ++ rest := by
    rw [← String.append_assoc, hWords]
  refine (report_of_read hAudit hRead opening).trans
    (congrArg Except.ok ?_)
  unfold account description
  -- Opaque names keep the comparison from printing tables.
  generalize Text.table results.entries = expected
  generalize Text.table negated.entries = denied
  simp only [String.append_assoc, hAppend]

variable {expectation : Expectation}
variable {evaluation : Evaluation σ}

/- Without an evaluation, there is no report. -/
theorem report_of_no_evaluation
    (hTracks :
      Tracks (none : Option (Evaluation σ))
        expectation.audit)
    (opening : String) :
    expectation.report opening = .error .notEvaluated := by
  cases hAudit : expectation.audit with
  | none =>
      simp only [report, hAudit]
  | some audit =>
      rw [hAudit] at hTracks
      cases hTracks

/- Nor is there one if no run was completed since then. -/
theorem report_of_not_completed
    (hTracks : Tracks (some evaluation) expectation.audit)
    (hNot : ¬ ∃ run ∈ evaluation.runs, run.Completed)
    (opening : String) :
    expectation.report opening = .error .notRun := by
  cases hAudit : expectation.audit with
  | none =>
      rw [hAudit] at hTracks
      cases hTracks
  | some audit =>
      rw [hAudit] at hTracks
      cases hTracks with
      | both hController hHolds =>
          simp only [report, hAudit,
            hHolds.read_of_not_completed hNot]
          rfl

/- Otherwise the report gives what was found last. -/
theorem report_of_completed
    (hTracks : Tracks (some evaluation) expectation.audit)
    (hCompleted : ∃ run ∈ evaluation.runs, run.Completed) :
    ∃ audit first second,
      expectation.audit = some audit ∧
        audit.privilege.controller =
          evaluation.target.controller ∧
        Audit.latest? (Audit.expectedPart? audit.privilege)
            evaluation.runs = some first ∧
        Audit.latest? (Audit.deniedPart? audit.privilege)
            evaluation.runs = some second ∧
        audit.read =
          .ok
            ⟨.ofExchanges first, .ofExchanges second⟩ := by
  cases hAudit : expectation.audit with
  | none =>
      rw [hAudit] at hTracks
      cases hTracks
  | some audit =>
      rw [hAudit] at hTracks
      cases hTracks with
      | both hController hHolds =>
          rcases hHolds.read_of_completed hCompleted with
            ⟨first, second, hFirst, hSecond, hRead⟩
          exact ⟨audit, first, second, rfl, hController,
            hFirst, hSecond, hRead⟩

/-
  What is reported after a history: there is no report before
  the first evaluation, nor before some run of the audit made
  by the latest evaluation was completed. Otherwise a report
  names the controller of that evaluation, the role and the
  last turn, and gives two tables of that audit: for each of
  the expected actions the last outcome in the latest run that
  asked about all of them, and for each of the denied actions
  the last outcome in the latest run that was completed.
-/
theorem failure_messages_after_history
    (engine : Engine σ)
    (threshold : Level)
    (role : Role)
    (start : σ)
    (history : List (Occurrence Step σ)) :
    let now :=
      (reached engine threshold role start history).1
    let evaluation? :=
      latestEvaluation?
        (History.responses (step engine threshold) history
          (fresh role, start))
    let shown := fun entries : List (Action × Bool) =>
      "\x7b" ++
        ", ".intercalate
          (entries.map fun entry =>
            Text.quote entry.1 ++ ": " ++
              if entry.2 then "True" else "False") ++
        "\x7d"
    (∀ message opening,
      (message, opening) ∈
        [(now.failureMessage, "Expected "),
          (now.negatedFailureMessage, "Did not expect ")] →
      (message = .error .notEvaluated ↔
        ∀ purpose target,
          Occurrence.own (.evaluate purpose target) ∉
            history) ∧
      (message = .error .notRun ↔
        ∃ evaluation,
          evaluation? = some evaluation ∧
            ∀ run ∈ evaluation.runs, ¬ run.Completed) ∧
      ∀ evaluation,
        evaluation? = some evaluation →
        (∃ run ∈ evaluation.runs, run.Completed) →
        ∃ (audit : Audit)
          (first second : List Exchange)
          (results negated : Outcomes),
          now.audit = some audit ∧
            Audit.latest?
                (Audit.expectedPart? audit.privilege)
                evaluation.runs = some first ∧
            Audit.latest?
                (Audit.deniedPart? audit.privilege)
                evaluation.runs = some second ∧
            results.Tabulates audit.privilege.expected
              first ∧
            negated.Tabulates audit.privilege.denied
              second ∧
            audit.read = .ok ⟨results, negated⟩ ∧
            message =
              .ok
                (opening ++
                  evaluation.target.controller.qualifiedName ++
                  " to have permission for " ++ role ++ " " ++
                  wording (lastTurn? history) ++
                  ". results: " ++ shown results.entries ++
                  ", negated_results: " ++
                  shown negated.entries)) ∧
      Failure.notEvaluated.message =
        "matcher has not been evaluated" ∧
      Failure.notRun.message =
        "Resource.run_all() has not been called" := by
  intro now evaluation? shown
  have hTracks : Tracks evaluation? now.audit :=
    tracks_reached engine threshold role start history
  have hRole : now.role = role :=
    role_reached engine threshold role start history
  have hPhrase :
      now.intent.phrase = wording (lastTurn? history) :=
    phrase_reached engine threshold role start history
  refine ⟨?_, rfl, rfl⟩
  intro message opening hMem
  have hReport : message = now.report opening := by
    rw [List.mem_pair, Prod.mk.injEq, Prod.mk.injEq] at hMem
    rcases hMem with ⟨hMessage, hOpening⟩ | ⟨hMessage, hOpening⟩
    · rw [hMessage, hOpening]
      rfl
    · rw [hMessage, hOpening]
      rfl
  rw [hReport,
    ← latestEvaluation?_responses_eq_none_iff
      (step engine threshold) history (fresh role, start)]
  change
    (now.report opening = .error .notEvaluated ↔
      evaluation? = none) ∧ _
  clear_value evaluation?
  cases evaluation? with
  | none =>
      rw [report_of_no_evaluation hTracks]
      simp
  | some evaluation =>
      by_cases hCompleted :
          ∃ run ∈ evaluation.runs, run.Completed
      · rcases report_of_completed hTracks hCompleted with
          ⟨audit, first, second, hAudit, hController,
            hFirst, hSecond, hRead⟩
        have hFull := report_in_full hAudit hRead opening
        rw [hRole, hPhrase, hController, Text.table_eq,
          Text.table_eq] at hFull
        refine ⟨by simp [hFull], ?_, ?_⟩
        · constructor
          · intro hFailed
            cases hFull.symm.trans hFailed
          · rintro ⟨other, hOther, hNone⟩
            cases hOther
            rcases hCompleted with ⟨run, hRun, hDone⟩
            exact absurd hDone (hNone run hRun)
        · intro other hOther _
          cases hOther
          exact ⟨audit, first, second, _, _, hAudit,
            hFirst, hSecond,
            Audit.tabulates_of_latest?_expectedPart? hFirst,
            Audit.tabulates_of_latest?_deniedPart? hSecond,
            hRead, hFull⟩
      · rw [report_of_not_completed hTracks hCompleted]
        refine ⟨by simp, ?_, ?_⟩
        · constructor
          · intro _
            refine ⟨evaluation, rfl, ?_⟩
            intro run hRun hDone
            exact hCompleted ⟨run, hRun, hDone⟩
          · intro _
            rfl
        · intro other hOther hDone
          cases hOther
          exact absurd hDone hCompleted

end Expectation

end Clearance
