import Clearance.Proofs.Expectation.Log
import Clearance.Proofs.Session.Isolation

/-
  Sessions that are reported alike.

  Let the steps of two sessions leave the same behind. Then
  whatever is seen alike in the reports of single steps is
  seen alike in all reports. If the engines match, that is
  everything but the log, and the log as well if it is kept
  at the same level. The same goes for an audit alone.

  Key definitions include:
    * `Report.unlogged`
    * `Session.Setting.Matches`

  Key theorems include:
    * `Audit.map_reports_eq`
    * `Session.map_reports_eq`
    * `Session.step_of_matches`
    * `Audit.exists_call_of_mem_reports`
    * `Session.exists_step_of_mem_reports`
-/

------------------------------------------------------------
-- Reports Without A Log
------------------------------------------------------------

namespace Clearance

namespace Report

variable {α : Type}

/- A report without its log. -/
def unlogged (report : Report α) : Report α :=
  { report with log := none }

/- Runs that are alike differ in their logs at most. -/
theorem unlogged_ofRun_eq
    {σ τ : Type}
    {link : σ → τ → Prop}
    {log log' : Log}
    {left : Run σ Answer}
    {right : Run τ Answer}
    (hAlike :
      Run.Alike link log.threshold log'.threshold left right)
    (after : α) :
    (ofRun log left after).unlogged =
      (ofRun log' right after).unlogged := by
  unfold ofRun unlogged
  rw [hAlike.result_eq, hAlike.events.questions_eq]

end Report

end Clearance

------------------------------------------------------------
-- Audits Alone
------------------------------------------------------------

namespace Clearance

namespace Audit

variable {σ : Type}
variable {engine other : Engine σ}
variable {log log' : Log}

/- What every call shows alike, all reports show alike. -/
theorem map_reports_eq
    {α : Type}
    {view : Report Audit → α}
    (hPerform :
      ∀ audit call state,
        let left :=
          perform engine log.threshold audit call state
        let right :=
          perform other log'.threshold audit call state
        view (Report.ofRun log left.1 left.2) =
            view (Report.ofRun log' right.1 right.2) ∧
          left.2 = right.2 ∧
          left.1.engine = right.1.engine)
    (calls : List Call)
    (audit : Audit)
    (state : σ) :
    (reports engine log calls audit state).map view =
      (reports other log' calls audit state).map view := by
  induction calls generalizing audit state with
  | nil =>
      rfl
  | cons call rest ih =>
      rcases hPerform audit call state with
        ⟨hView, hAudit, hEngine⟩
      simp only [reports, List.map_cons]
      rw [hView, hAudit, hEngine, ih]

/- Every report is that of some call. -/
theorem exists_call_of_mem_reports
    {calls : List Call}
    {audit : Audit}
    {state : σ}
    {report : Report Audit}
    (hMem : report ∈ reports engine log calls audit state) :
    ∃ (now : Audit) (call : Call) (before : σ),
      let done := perform engine log.threshold now call before
      report = Report.ofRun log done.1 done.2 := by
  induction calls generalizing audit state with
  | nil =>
      cases hMem
  | cons call rest ih =>
      rcases List.mem_cons.mp hMem with hHead | hTail
      · exact ⟨audit, call, state, hHead⟩
      · exact ih hTail

variable (hMatches : engine.Matches Eq other)

include hMatches

/- With matching engines, the reports are the same. -/
theorem reports_of_matches
    (calls : List Call)
    (audit : Audit)
    (state : σ) :
    reports engine log calls audit state =
      reports other log calls audit state := by
  have hReports :
      (reports engine log calls audit state).map id =
        (reports other log calls audit state).map id := by
    apply map_reports_eq
    intro audit call state left right
    rcases perform_alike hMatches log.threshold
        log.threshold audit rfl call with
      ⟨hRun, hAfter⟩
    refine ⟨?_, hAfter, hRun.linked⟩
    rw [Report.ofRun_eq hRun left.2, hAfter]
  rwa [List.map_id, List.map_id] at hReports

/- Whatever is logged, they are the same but for the log. -/
theorem unlogged_reports_of_matches
    (calls : List Call)
    (audit : Audit)
    (state : σ) :
    (reports engine log calls audit state).map
        Report.unlogged =
      (reports other log' calls audit state).map
        Report.unlogged := by
  apply map_reports_eq
  intro audit call state left right
  rcases perform_alike hMatches log.threshold
      log'.threshold audit rfl call with
    ⟨hRun, hAfter⟩
  refine ⟨?_, hAfter, hRun.linked⟩
  rw [Report.unlogged_ofRun_eq hRun left.2, hAfter]

end Audit

end Clearance

------------------------------------------------------------
-- Sessions
------------------------------------------------------------

namespace Clearance

namespace Session

variable {ι κ σ : Type}

/- Settings with the same bindings and matching engines. -/
structure Setting.Matches
    (left right : Setting ι κ σ) : Prop where
  binding_eq : left.binding = right.binding
  engines :
    ∀ shared,
      (left.engine shared).Matches Eq (right.engine shared)

variable [DecidableEq ι]
variable [DecidableEq κ]
variable {left right : Setting ι κ σ}

/- What every step shows alike, all reports show alike. -/
theorem map_reports_eq
    {α : Type}
    {view : Report Expectation → α}
    (hStep :
      ∀ session index taken,
        view (step left session index taken).1 =
            view (step right session index taken).1 ∧
          (step left session index taken).2 =
            (step right session index taken).2)
    (steps : List (ι × Expectation.Step))
    (session : Session ι κ σ) :
    (reports left steps session).map (Prod.map id view) =
      (reports right steps session).map
        (Prod.map id view) := by
  induction steps generalizing session with
  | nil =>
      rfl
  | cons head rest ih =>
      rcases head with ⟨index, taken⟩
      rcases hStep session index taken with
        ⟨hView, hSession⟩
      simp only [reports, List.map_cons, Prod.map_apply]
      rw [hView, hSession, ih]

/-
  With matching engines, a step leaves the same behind, and
  its reports differ at most in a log of another level.
-/
theorem step_of_matches
    (hMatches : left.Matches right)
    (session : Session ι κ σ)
    (index : ι)
    (taken : Expectation.Step) :
    (step left session index taken).1.unlogged =
        (step right session index taken).1.unlogged ∧
      (left.log = right.log →
        (step left session index taken).1 =
          (step right session index taken).1) ∧
      (step left session index taken).2 =
        (step right session index taken).2 := by
  rcases Expectation.step_alike
      (hMatches.engines (left.binding index))
      left.log.threshold right.log.threshold
      (session.expectation index) rfl taken with
    ⟨hRun, hAfter⟩
  simp only [step]
  rw [← hMatches.binding_eq, ← hAfter, ← hRun.linked]
  refine ⟨Report.unlogged_ofRun_eq hRun _, ?_, rfl⟩
  intro hLog
  rw [← hLog] at hRun ⊢
  exact Report.ofRun_eq hRun _

/- Every report is that of some step. -/
theorem exists_step_of_mem_reports
    {setting : Setting ι κ σ}
    {steps : List (ι × Expectation.Step)}
    {session : Session ι κ σ}
    {reported : ι × Report Expectation}
    (hMem : reported ∈ reports setting steps session) :
    ∃ (now : Session ι κ σ) (taken : Expectation.Step),
      reported.2 =
        (now.step setting reported.1 taken).1 := by
  induction steps generalizing session with
  | nil =>
      cases hMem
  | cons head rest ih =>
      rcases List.mem_cons.mp hMem with hHead | hTail
      · rw [hHead]
        exact ⟨session, head.2, rfl⟩
      · exact ih hTail

variable (hMatches : left.Matches right)

include hMatches

/- With matching engines and one log, nothing differs. -/
theorem reports_of_matches
    (hLog : left.log = right.log)
    (steps : List (ι × Expectation.Step))
    (session : Session ι κ σ) :
    reports left steps session =
      reports right steps session := by
  have hReports :
      (reports left steps session).map (Prod.map id id) =
        (reports right steps session).map
          (Prod.map id id) := by
    apply map_reports_eq
    intro session index taken
    have hStep :=
      step_of_matches hMatches session index taken
    exact ⟨hStep.2.1 hLog, hStep.2.2⟩
  rwa [Prod.map_id, List.map_id, List.map_id] at hReports

/- Whatever is logged, they are the same but for the log. -/
theorem unlogged_reports_of_matches
    (steps : List (ι × Expectation.Step))
    (session : Session ι κ σ) :
    (reports left steps session).map
        (Prod.map id Report.unlogged) =
      (reports right steps session).map
        (Prod.map id Report.unlogged) := by
  apply map_reports_eq
  intro session index taken
  have hStep := step_of_matches hMatches session index taken
  exact ⟨hStep.1, hStep.2.2⟩

end Session

end Clearance
