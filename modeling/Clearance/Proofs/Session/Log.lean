import Clearance.Proofs.Session.Likeness

/-
  A log makes no difference to what is logged.

  All entries are of the level of most detail, so that a log
  of any other level stays empty. Whether a log is kept, and
  at which level, can be seen in the logs of the reports, and
  in nothing else.

  Key theorems include:
    * `Audit.entries_perform_of_ne_debug`
    * `Expectation.entries_step_of_ne_debug`
    * `Session.reports_of_any_log`
-/

------------------------------------------------------------
-- Logs Of Less Detail
------------------------------------------------------------

namespace Clearance

/- Only a log of the most detail takes such entries. -/
theorem Level.admits_debug_iff
    {threshold : Level} :
    threshold.admits .debug = true ↔
      threshold = .debug := by
  cases threshold with
  | debug => decide
  | info => decide
  | warning => decide

variable {σ : Type}
variable {threshold : Level}
variable (hLevel : threshold ≠ .debug)
variable (engine : Engine σ)

include hLevel

/- At another level, a call on an audit writes nothing. -/
theorem Audit.entries_perform_of_ne_debug
    (audit : Audit)
    (call : Call)
    (state : σ) :
    Event.entries
        (audit.perform engine threshold call
          state).1.events = [] := by
  rw [List.eq_nil_iff_forall_not_mem]
  intro entry hMem
  rw [events_perform] at hMem
  have hEntry := Exchange.mem_entries_flatMap_trace hMem
  exact hLevel (Level.admits_debug_iff.mp hEntry.1)

/- Nor does a step on an expectation. -/
theorem Expectation.entries_step_of_ne_debug
    (expectation : Expectation)
    (taken : Step)
    (state : σ) :
    Event.entries
        (expectation.step engine threshold taken
          state).1.events = [] := by
  rw [List.eq_nil_iff_forall_not_mem]
  intro entry hMem
  have hEntry := mem_entries_step hMem
  exact hLevel (Level.admits_debug_iff.mp hEntry.1)

end Clearance

------------------------------------------------------------
-- Any Log
------------------------------------------------------------

namespace Clearance

namespace Session

variable {ι κ σ : Type}
variable [DecidableEq ι]
variable [DecidableEq κ]

/-
  Keep any log in place of another, or none. Then the steps
  of a session are reported with the same results or
  failures, the same questions in the same order, and the
  same expectations left behind, and so are the calls on an
  audit alone; only the logs may differ. At any level but
  that of the most detail, all of the logs are empty.
-/
theorem reports_of_any_log
    (setting : Setting ι κ σ)
    (steps : List (ι × Expectation.Step))
    (session : Session ι κ σ)
    (engine : Engine σ)
    (calls : List Audit.Call)
    (audit : Audit)
    (state : σ) :
    (∀ log log' : Log,
      (reports { setting with log := log } steps
            session).map
          (Prod.map id Report.unlogged) =
          (reports { setting with log := log' } steps
              session).map
            (Prod.map id Report.unlogged) ∧
        (Audit.reports engine log calls audit state).map
            Report.unlogged =
          (Audit.reports engine log' calls audit state).map
            Report.unlogged) ∧
      ∀ level : Level, level ≠ .debug →
        (∀ reported ∈
            reports { setting with log := some level } steps
              session,
          reported.2.log = some []) ∧
          ∀ report ∈
              Audit.reports engine (some level) calls audit
                state,
            report.log = some [] := by
  refine ⟨?_, ?_⟩
  · intro log log'
    constructor
    · apply unlogged_reports_of_matches
      exact ⟨rfl, fun shared => Engine.matches_self _⟩
    · exact Audit.unlogged_reports_of_matches
        engine.matches_self calls audit state
  · intro level hLevel
    constructor
    · intro reported hMem
      rcases exists_step_of_mem_reports hMem with
        ⟨now, taken, hReport⟩
      rw [hReport]
      exact congrArg some
        (Expectation.entries_step_of_ne_debug hLevel _ _
          taken _)
    · intro report hMem
      rcases Audit.exists_call_of_mem_reports hMem with
        ⟨now, call, before, hReport⟩
      rw [hReport]
      exact congrArg some
        (Audit.entries_perform_of_ne_debug hLevel engine now
          call before)

end Session

end Clearance
