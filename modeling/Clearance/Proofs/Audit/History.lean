import Clearance.Proofs.Audit.Reading
import Clearance.Proofs.Audit.Run
import Clearance.Proofs.Findings
import Clearance.Proofs.History

/-
  What can be read from an audit after a history of calls.

  The results of the expected actions are those of the last
  run that asked about all of them, and the results of the
  denied actions are those of the last run that was
  completed. The two runs need not be the same one. Calls
  other than a run ask nothing and leave the audit alone.

  Key definitions include:
    * `Exchange.Cover`
    * `Audit.expectedPart?`
    * `Audit.deniedPart?`
    * `Audit.runs`
    * `Audit.latest?`
    * `Audit.matters`

  Key theorems include:
    * `Audit.Ran.results_eq`
    * `Audit.Ran.negated_eq`
    * `Audit.read_of_latest?`
    * `Audit.results_after_history`
    * `Audit.negated_after_history`
    * `Audit.readings_after_history`
-/

------------------------------------------------------------
-- Parts Of A Run
------------------------------------------------------------

namespace Clearance

namespace Exchange

/-
  Exchanges cover some actions if each of these was asked
  about in its place, and none of the questions raised a
  fault.
-/
def Cover
    (exchanges : List Exchange)
    (actions : List Action) : Prop :=
  exchanges.map Exchange.action = actions ∧
    ∀ exchange ∈ exchanges, exchange.fault? = none

instance
    (exchanges : List Exchange)
    (actions : List Action) :
    Decidable (Cover exchanges actions) := by
  unfold Cover
  infer_instance

namespace Cover

variable {exchanges : List Exchange}
variable {actions : List Action}

theorem length_eq
    (hCover : Cover exchanges actions) :
    exchanges.length = actions.length := by
  rw [← hCover.1, List.length_map]

theorem firstFault?_eq
    (hCover : Cover exchanges actions) :
    firstFault? exchanges = none :=
  List.findSome?_eq_none_iff.mpr hCover.2

/- The table of the exchanges lists the actions covered. -/
theorem tabulates
    (hCover : Cover exchanges actions) :
    (Outcomes.ofExchanges exchanges).Tabulates actions
      exchanges :=
  Outcomes.tabulates_ofExchanges hCover.1

end Cover

end Exchange

variable {σ : Type}

/- Questions that raise no fault cover their actions. -/
theorem Interrogation.cover
    {engine : Engine σ}
    {privilege : Privilege}
    {actions : List Action}
    {state last : σ}
    {asked : List Exchange}
    (hAsked :
      Interrogation engine (actions.map privilege.question)
        state asked last)
    (hFaultless : Exchange.firstFault? asked = none) :
    Exchange.Cover asked actions :=
  ⟨Privilege.actions_of_questions
      (hAsked.questions_eq hFaultless),
    List.findSome?_eq_none_iff.mp hFaultless⟩

namespace Audit

/-
  The exchanges on the expected actions, if a run with these
  exchanges asked about all of them without a fault.
-/
def expectedPart?
    (privilege : Privilege)
    (asked : List Exchange) : Option (List Exchange) :=
  let first := asked.take privilege.expected.length
  if Exchange.Cover first privilege.expected then
    some first
  else
    none

/-
  The exchanges on the denied actions, if a run with these
  exchanges asked about all actions without a fault.
-/
def deniedPart?
    (privilege : Privilege)
    (asked : List Exchange) : Option (List Exchange) :=
  let first := asked.take privilege.expected.length
  let second := asked.drop privilege.expected.length
  if Exchange.Cover first privilege.expected ∧
      Exchange.Cover second privilege.denied then
    some second
  else
    none

variable {privilege : Privilege}
variable {asked first second : List Exchange}

/- What is kept of a run covers the expected actions. -/
theorem cover_of_expectedPart?
    (hPart : expectedPart? privilege asked = some first) :
    Exchange.Cover first privilege.expected := by
  rcases Option.ite_none_right_eq_some.mp hPart with
    ⟨hCover, hFirst⟩
  rw [← Option.some_inj.mp hFirst]
  exact hCover

/- What is kept of a run covers the denied actions. -/
theorem cover_of_deniedPart?
    (hPart : deniedPart? privilege asked = some second) :
    Exchange.Cover second privilege.denied := by
  rcases Option.ite_none_right_eq_some.mp hPart with
    ⟨hCover, hSecond⟩
  rw [← Option.some_inj.mp hSecond]
  exact hCover.2

/- A run that was stopped at once has no part to keep. -/
theorem expectedPart?_of_fault
    {fault : Fault}
    (hLength : asked.length ≤ privilege.expected.length)
    (hFault : Exchange.firstFault? asked = some fault) :
    expectedPart? privilege asked = none := by
  rw [expectedPart?, List.take_of_length_le hLength]
  apply if_neg
  intro hCover
  rw [hCover.firstFault?_eq] at hFault
  cases hFault

/- Once all expected actions were asked about, it is kept. -/
theorem expectedPart?_append
    (hFirst : Exchange.Cover first privilege.expected)
    (second : List Exchange) :
    expectedPart? privilege (first ++ second) =
      some first := by
  rw [expectedPart?, List.take_left' hFirst.length_eq,
    if_pos hFirst]

/- A run that was stopped has no part of denied actions. -/
theorem deniedPart?_of_fault
    {fault : Fault}
    (hFault : Exchange.firstFault? asked = some fault) :
    deniedPart? privilege asked = none := by
  apply if_neg
  rintro ⟨hFirst, hSecond⟩
  rw [← List.take_append_drop privilege.expected.length asked,
    Exchange.firstFault?_append, hFirst.firstFault?_eq,
    hSecond.firstFault?_eq] at hFault
  cases hFault

/- Once all actions were asked about, they are kept. -/
theorem deniedPart?_append
    (hFirst : Exchange.Cover first privilege.expected)
    (hSecond : Exchange.Cover second privilege.denied) :
    deniedPart? privilege (first ++ second) =
      some second := by
  rw [deniedPart?, List.take_left' hFirst.length_eq,
    List.drop_left' hFirst.length_eq,
    if_pos ⟨hFirst, hSecond⟩]

/- The denied actions are asked about after the others. -/
theorem isSome_expectedPart?
    (hDenied : (deniedPart? privilege asked).isSome) :
    (expectedPart? privilege asked).isSome := by
  rcases Option.isSome_iff_exists.mp hDenied with
    ⟨second, hPart⟩
  rcases Option.ite_none_right_eq_some.mp hPart with
    ⟨hCover, _⟩
  rw [expectedPart?, if_pos hCover.1]
  rfl

namespace Ran

variable {engine : Engine σ}
variable {audit after : Audit}
variable {state last : σ}
variable {result : Except Failure Findings}

/- A run leaves the privilege as it is. -/
theorem privilege_eq
    (hRan : Ran engine audit state asked result last after) :
    after.privilege = audit.privilege := by
  cases hRan with
  | stoppedAtExpected hAsked hFault =>
      rfl
  | stoppedAtDenied hFirst hFaultless hSecond hFault =>
      rfl
  | completed hFirst hFaultless hSecond hFaultless' =>
      rfl

/-
  A run replaces the results of the expected actions if it
  asked about all of them.
-/
theorem results_eq
    (hRan : Ran engine audit state asked result last after) :
    after.results =
      ((expectedPart? audit.privilege asked).map
        .ofExchanges).or audit.results := by
  cases hRan with
  | stoppedAtExpected hAsked hFault =>
      have hLength :
          asked.length ≤ audit.privilege.expected.length := by
        simpa using hAsked.questions_prefix.length_le
      rw [expectedPart?_of_fault hLength hFault]
      rfl
  | stoppedAtDenied hFirst hFaultless hSecond hFault =>
      rw [expectedPart?_append (hFirst.cover hFaultless)]
      rfl
  | completed hFirst hFaultless hSecond hFaultless' =>
      rw [expectedPart?_append (hFirst.cover hFaultless)]
      rfl

/-
  A run replaces the results of the denied actions if it was
  completed.
-/
theorem negated_eq
    (hRan : Ran engine audit state asked result last after) :
    after.negated =
      ((deniedPart? audit.privilege asked).map
        .ofExchanges).or audit.negated := by
  cases hRan with
  | stoppedAtExpected hAsked hFault =>
      rw [deniedPart?_of_fault hFault]
      rfl
  | @stoppedAtDenied _ second _ _ _ hFirst hFaultless hSecond
      hFault =>
      rw [← Exchange.firstFault?_append_of_faultless second
        hFaultless] at hFault
      rw [deniedPart?_of_fault hFault]
      rfl
  | completed hFirst hFaultless hSecond hFaultless' =>
      rw [deniedPart?_append (hFirst.cover hFaultless)
        (hSecond.cover hFaultless')]
      rfl

/- A run is completed if it covers the denied actions. -/
theorem isSome_deniedPart?_iff
    (hRan : Ran engine audit state asked result last after) :
    (deniedPart? audit.privilege asked).isSome ↔
      ∃ findings, result = .ok findings := by
  cases hRan with
  | stoppedAtExpected hAsked hFault =>
      rw [deniedPart?_of_fault hFault]
      simp
  | @stoppedAtDenied _ second _ _ _ hFirst hFaultless hSecond
      hFault =>
      rw [← Exchange.firstFault?_append_of_faultless second
        hFaultless] at hFault
      rw [deniedPart?_of_fault hFault]
      simp
  | completed hFirst hFaultless hSecond hFaultless' =>
      rw [deniedPart?_append (hFirst.cover hFaultless)
        (hSecond.cover hFaultless')]
      simp

end Ran

end Audit

end Clearance

------------------------------------------------------------
-- Latest Parts
------------------------------------------------------------

namespace Clearance

namespace Audit

variable {σ : Type}

/- The runs among calls, in order. -/
def runs
    (responses : List (Call × Run σ Answer)) :
    List (Run σ Answer) :=
  responses.filterMap fun (call, run) =>
    match call with
    | .run => some run
    | .read _ => none

/- A part of the latest run that has that part. -/
def latest?
    (part? : List Exchange → Option (List Exchange))
    (runs : List (Run σ Answer)) : Option (List Exchange) :=
  runs.reverse.findSome? fun run =>
    part? (Event.exchanges run.events)

/- A later run goes before an earlier one. -/
theorem latest?_cons
    (part? : List Exchange → Option (List Exchange))
    (run : Run σ Answer)
    (rest : List (Run σ Answer)) :
    latest? part? (run :: rest) =
      (latest? part? rest).or
        (part? (Event.exchanges run.events)) := by
  rw [latest?, List.reverse_cons, List.findSome?_append,
    List.findSome?_singleton]
  rfl

/- There is a latest part if some run has the part. -/
theorem isSome_latest?_iff
    (part? : List Exchange → Option (List Exchange))
    (runs : List (Run σ Answer)) :
    (latest? part? runs).isSome ↔
      ∃ run ∈ runs,
        (part? (Event.exchanges run.events)).isSome := by
  rw [latest?, List.findSome?_isSome_iff]
  simp only [List.mem_reverse]

/-
  If the runs that have the part are the ones that are done,
  there is a latest part just if some run is done.
-/
theorem isSome_latest?_iff_of_forall
    {part? : List Exchange → Option (List Exchange)}
    {runs : List (Run σ Answer)}
    {Done : Run σ Answer → Prop}
    (hDone :
      ∀ run ∈ runs,
        (part? (Event.exchanges run.events)).isSome ↔
          Done run) :
    (latest? part? runs).isSome ↔
      ∃ run ∈ runs, Done run := by
  rw [isSome_latest?_iff]
  exact exists_congr fun run =>
    and_congr_right (hDone run)

/- If some run was completed, so was its first part. -/
theorem isSome_latest?_expectedPart?
    {privilege : Privilege}
    {runs : List (Run σ Answer)}
    (hDenied :
      (latest? (deniedPart? privilege) runs).isSome) :
    (latest? (expectedPart? privilege) runs).isSome := by
  rw [isSome_latest?_iff] at *
  rcases hDenied with ⟨run, hMem, hSome⟩
  exact ⟨run, hMem, isSome_expectedPart? hSome⟩

/-
  If some run was completed, the tables of the latest parts
  can be read from an audit that holds them.
-/
theorem read_of_latest?
    {audit : Audit}
    {privilege : Privilege}
    {runs : List (Run σ Answer)}
    (hResults :
      audit.results =
        (latest? (expectedPart? privilege) runs).map
          .ofExchanges)
    (hNegated :
      audit.negated =
        (latest? (deniedPart? privilege) runs).map
          .ofExchanges)
    (hDenied :
      (latest? (deniedPart? privilege) runs).isSome) :
    ∃ first second,
      latest? (expectedPart? privilege) runs = some first ∧
        latest? (deniedPart? privilege) runs = some second ∧
        audit.read =
          .ok ⟨.ofExchanges first, .ofExchanges second⟩ := by
  rcases Option.isSome_iff_exists.mp hDenied with
    ⟨second, hSecond⟩
  rcases Option.isSome_iff_exists.mp
      (isSome_latest?_expectedPart? hDenied) with
    ⟨first, hFirst⟩
  refine ⟨first, second, hFirst, hSecond, ?_⟩
  simp only [read, findings, hResults, hNegated, hFirst,
    hSecond, Option.map_some]

variable (engine : Engine σ)
variable (threshold : Level)

/- A reading leaves everything where it is. -/
theorem next_read
    (now : Audit × σ)
    (reading : Reading) :
    History.next (perform engine threshold) now
        (.own (.read reading)) = now := by
  rw [History.next, perform_read]
  rfl

/- A reading is no run. -/
theorem runs_read
    (reading : Reading)
    (rest : List (Occurrence Call σ))
    (now : Audit × σ) :
    runs
        (History.responses (perform engine threshold)
          (.own (.read reading) :: rest) now) =
      runs
        (History.responses (perform engine threshold) rest
          now) := by
  rw [History.responses, next_read]
  rfl

/-
  A field that each run replaces by the table of a part of it,
  if it has that part, is the table of that part of the latest
  run that has it.
-/
theorem field_after_history
    (field : Audit → Option Outcomes)
    (part? :
      Privilege →
      List Exchange →
      Option (List Exchange))
    (hRun :
      ∀ (audit : Audit) (state : σ),
        field (audit.run engine threshold state).2 =
          ((part? audit.privilege
            (Event.exchanges
              (audit.run engine threshold
                state).1.events)).map .ofExchanges).or
            (field audit))
    (history : List (Occurrence Call σ))
    (now : Audit × σ) :
    field
        (History.after (perform engine threshold) history
          now).1 =
      ((latest? (part? now.1.privilege)
        (runs
          (History.responses (perform engine threshold)
            history now))).map .ofExchanges).or
        (field now.1) := by
  induction history generalizing now with
  | nil =>
      rfl
  | cons occurrence rest ih =>
      rw [History.after_cons, ih]
      cases occurrence with
      | elsewhere left =>
          rfl
      | own call =>
          cases call with
          | read reading =>
              rw [next_read, runs_read]
          | run =>
              have hNext :
                  (History.next (perform engine threshold)
                    now (.own .run)).1 =
                    (now.1.run engine threshold now.2).2 :=
                rfl
              have hRuns :
                  runs
                    (History.responses
                      (perform engine threshold)
                      (.own .run :: rest) now) =
                    (now.1.perform engine threshold .run
                      now.2).1 ::
                      runs
                        (History.responses
                          (perform engine threshold) rest
                          (History.next
                            (perform engine threshold) now
                            (.own .run))) :=
                rfl
              rw [hRuns, latest?_cons, hNext, hRun,
                (run_ran engine threshold now.1
                  now.2).privilege_eq,
                Option.map_or, Option.or_assoc]
              rfl

end Audit

end Clearance

------------------------------------------------------------
-- Readings After A History
------------------------------------------------------------

namespace Clearance

namespace Audit

variable {σ : Type}

/- Can an occurrence change anything? A reading cannot. -/
def matters : Occurrence Call σ → Bool
  | .own (.read _) => false
  | .own .run => true
  | .elsewhere _ => true

/- Findings take both results. -/
theorem findings_eq_none_iff
    (audit : Audit) :
    audit.findings = none ↔
      audit.results = none ∨ audit.negated = none := by
  unfold findings
  cases audit.results with
  | none => simp
  | some results =>
      cases audit.negated with
      | none => simp
      | some negated => simp

/- Without findings, nothing but names can be read. -/
theorem answer_eq_error_iff
    (audit : Audit)
    {reading : Reading}
    (hReading : reading ≠ .controllerNames) :
    audit.answer reading = .error .notRun ↔
      audit.findings = none := by
  cases hFindings : audit.findings with
  | none =>
      cases reading with
      | controllerNames =>
          exact absurd rfl hReading
      | _ =>
          simp [answer, editCopies_eq, read, hFindings,
            Except.map]
  | some findings =>
      cases reading with
      | controllerNames =>
          exact absurd rfl hReading
      | _ =>
          simp [answer, editCopies_eq, read, hFindings,
            Except.map]

/- A run that is stopped leaves a new audit as it found it. -/
theorem Ran.findings_of_fault
    {engine : Engine σ}
    {audit after : Audit}
    {state last : σ}
    {asked : List Exchange}
    {result : Except Failure Findings}
    (hRan : Ran engine audit state asked result last after)
    (hNegated : audit.negated = none)
    {fault : Fault}
    (hFault : Exchange.firstFault? asked = some fault) :
    after.findings = none := by
  apply after.findings_eq_none_iff.mpr
  right
  rw [hRan.negated_eq, deniedPart?_of_fault hFault,
    hNegated]
  rfl

section

variable (engine : Engine σ)
variable (threshold : Level)

/- Nothing changes if the readings are left out. -/
theorem after_filter_matters
    (history : List (Occurrence Call σ))
    (now : Audit × σ) :
    History.after (perform engine threshold)
        (history.filter matters) now =
      History.after (perform engine threshold) history
        now := by
  induction history generalizing now with
  | nil =>
      rfl
  | cons occurrence rest ih =>
      cases occurrence with
      | elsewhere left =>
          rw [List.filter_cons_of_pos rfl]
          exact ih _
      | own call =>
          cases call with
          | read reading =>
              rw [List.filter_cons_of_neg (by simp [matters]),
                History.after_cons, next_read]
              exact ih now
          | run =>
              rw [List.filter_cons_of_pos rfl]
              exact ih _

/- Only a run asks anything. -/
theorem exchanges_of_ne_run
    (history : List (Occurrence Call σ))
    (now : Audit × σ)
    {response : Call × Run σ Answer}
    (hMem :
      response ∈
        History.responses (perform engine threshold) history
          now)
    (hCall : response.1 ≠ .run) :
    Event.exchanges response.2.events = [] := by
  induction history generalizing now with
  | nil =>
      simp [History.responses] at hMem
  | cons occurrence rest ih =>
      cases occurrence with
      | elsewhere left =>
          exact ih _ hMem
      | own call =>
          rcases List.mem_cons.mp hMem with hHead | hTail
          · subst hHead
            cases call with
            | read reading => rfl
            | run => exact absurd rfl hCall
          · exact ih _ hTail

/- A call for a run is answered if the run is completed. -/
theorem perform_run_eq_ok_iff
    (audit : Audit)
    (state : σ) :
    (∃ answer,
        (audit.perform engine threshold .run
          state).1.result = .ok answer) ↔
      ∃ findings,
        (audit.run engine threshold state).1.result =
          .ok findings := by
  cases hResult :
      (audit.run engine threshold state).1.result with
  | error failure =>
      simp [perform, Run.mapResult, hResult, Except.map]
  | ok findings =>
      simp [perform, Run.mapResult, hResult, Except.map]

/- The completed runs are those with a second part. -/
theorem isSome_deniedPart?_iff_of_mem
    (history : List (Occurrence Call σ))
    (now : Audit × σ)
    {run : Run σ Answer}
    (hMem :
      run ∈
        runs
          (History.responses (perform engine threshold)
            history now)) :
    (deniedPart? now.1.privilege
        (Event.exchanges run.events)).isSome ↔
      ∃ answer, run.result = .ok answer := by
  induction history generalizing now with
  | nil =>
      simp [History.responses, runs] at hMem
  | cons occurrence rest ih =>
      cases occurrence with
      | elsewhere left =>
          exact ih (now.1, left) hMem
      | own call =>
          cases call with
          | read reading =>
              rw [runs_read] at hMem
              exact ih now hMem
          | run =>
              have hRan :=
                run_ran engine threshold now.1 now.2
              rcases List.mem_cons.mp hMem with hHead | hTail
              · rw [hHead, perform_run_eq_ok_iff]
                exact hRan.isSome_deniedPart?_iff
              · rw [← hRan.privilege_eq]
                exact ih _ hTail

end

/- The results after a history of a new audit. -/
theorem results_after_history
    (engine : Engine σ)
    (threshold : Level)
    (privilege : Privilege)
    (start : σ)
    (history : List (Occurrence Call σ)) :
    (History.after (perform engine threshold) history
        (Audit.start privilege, start)).1.results =
      (latest? (expectedPart? privilege)
        (runs
          (History.responses (perform engine threshold)
            history (Audit.start privilege, start)))).map
              .ofExchanges := by
  rw [field_after_history engine threshold Audit.results
    expectedPart?
    (fun audit state =>
      (run_ran engine threshold audit state).results_eq)]
  exact Option.or_none

/- The negated results after a history of a new audit. -/
theorem negated_after_history
    (engine : Engine σ)
    (threshold : Level)
    (privilege : Privilege)
    (start : σ)
    (history : List (Occurrence Call σ)) :
    (History.after (perform engine threshold) history
        (Audit.start privilege, start)).1.negated =
      (latest? (deniedPart? privilege)
        (runs
          (History.responses (perform engine threshold)
            history (Audit.start privilege, start)))).map
              .ofExchanges := by
  rw [field_after_history engine threshold Audit.negated
    deniedPart?
    (fun audit state =>
      (run_ran engine threshold audit state).negated_eq)]
  exact Option.or_none

/- A part of the latest run is a part of one of the runs. -/
theorem exists_run_of_latest?
    {part? : List Exchange → Option (List Exchange)}
    {runs : List (Run σ Answer)}
    {part : List Exchange}
    (hLatest : latest? part? runs = some part) :
    ∃ run ∈ runs,
      part? (Event.exchanges run.events) = some part := by
  rcases List.exists_of_findSome?_eq_some hLatest with
    ⟨run, hMem, hPart⟩
  exact ⟨run, List.mem_reverse.mp hMem, hPart⟩

/- So the table of it lists the expected actions. -/
theorem tabulates_of_latest?_expectedPart?
    {privilege : Privilege}
    {runs : List (Run σ Answer)}
    {part : List Exchange}
    (hLatest :
      latest? (expectedPart? privilege) runs = some part) :
    (Outcomes.ofExchanges part).Tabulates
      privilege.expected part := by
  rcases exists_run_of_latest? hLatest with ⟨_, _, hPart⟩
  exact (cover_of_expectedPart? hPart).tabulates

/- And the other table lists the denied actions. -/
theorem tabulates_of_latest?_deniedPart?
    {privilege : Privilege}
    {runs : List (Run σ Answer)}
    {part : List Exchange}
    (hLatest :
      latest? (deniedPart? privilege) runs = some part) :
    (Outcomes.ofExchanges part).Tabulates privilege.denied
      part := by
  rcases exists_run_of_latest? hLatest with ⟨_, _, hPart⟩
  exact (cover_of_deniedPart? hPart).tabulates

/-
  The latest run that asked about all expected actions gives
  the results of these, and the latest completed run those of
  the denied ones: each action in the order of the privilege,
  with the last outcome that the run had for it. Whether all
  is as expected, or opposite to it, is read off these two
  tables. Before a run is completed, nothing but the names of
  the controller can be read. Only runs ask anything, and only
  they change what is read later, also if a reader edits its
  copies of the tables.
-/
theorem readings_after_history
    (engine : Engine σ)
    (threshold : Level)
    (privilege : Privilege)
    (start : σ)
    (history : List (Occurrence Call σ)) :
    let take := perform engine threshold
    let began := (Audit.start privilege, start)
    let audit := (History.after take history began).1
    let responses := History.responses take history began
    let completed :=
      ∃ run ∈ runs responses,
        ∃ answer, run.result = .ok answer
    (∀ reading, reading ≠ .controllerNames →
      (audit.answer reading = .error .notRun ↔
        ¬ completed)) ∧
      Failure.notRun.message =
        "Resource.run_all() has not been called" ∧
      (∀ run ∈ runs responses,
        (deniedPart? privilege
            (Event.exchanges run.events)).isSome ↔
          ∃ answer, run.result = .ok answer) ∧
      (completed →
        ∃ (first second : List Exchange)
          (results negated : Outcomes)
          (permitted forbidden : Bool)
          (verdict : Verdict),
          latest? (expectedPart? privilege)
              (runs responses) = some first ∧
            latest? (deniedPart? privilege)
                (runs responses) = some second ∧
            results.Tabulates privilege.expected first ∧
            negated.Tabulates privilege.denied second ∧
            audit.answer .results =
              .ok (.outcomes results) ∧
            audit.answer .negatedResults =
              .ok (.outcomes negated) ∧
            audit.answer .permitted =
              .ok (.truth permitted) ∧
            audit.answer .forbidden =
              .ok (.truth forbidden) ∧
            audit.answer .verdict =
              .ok (.verdict verdict) ∧
            (permitted = true ↔
              (∀ entry ∈ results.entries,
                entry.2 = true) ∧
                ∀ entry ∈ negated.entries,
                  entry.2 = false) ∧
            (forbidden = true ↔
              (∀ entry ∈ results.entries,
                entry.2 = false) ∧
                ∀ entry ∈ negated.entries,
                  entry.2 = true) ∧
            (verdict = .permitted ↔ permitted = true) ∧
            (verdict = .forbidden ↔
              ¬ permitted = true ∧ forbidden = true) ∧
            (verdict = .mixed ↔
              ¬ permitted = true ∧ ¬ forbidden = true) ∧
            ∀ action outcome,
              audit.answer (.editCopies action outcome) =
                .ok (.findings ⟨results, negated⟩)) ∧
      (∀ response ∈ responses,
        response.1 ≠ .run →
          Event.exchanges response.2.events = []) ∧
      History.after take (history.filter matters) began =
        History.after take history began := by
  intro take began audit responses completed
  have hResults :
      audit.results =
        (latest? (expectedPart? privilege)
          (runs responses)).map .ofExchanges :=
    results_after_history engine threshold privilege start
      history
  have hNegated :
      audit.negated =
        (latest? (deniedPart? privilege)
          (runs responses)).map .ofExchanges :=
    negated_after_history engine threshold privilege start
      history
  have hDone :
      ∀ run ∈ runs responses,
        (deniedPart? privilege
            (Event.exchanges run.events)).isSome ↔
          ∃ answer, run.result = .ok answer :=
    fun run hMem =>
      isSome_deniedPart?_iff_of_mem engine threshold history
        began hMem
  have hCompleted :
      (latest? (deniedPart? privilege)
          (runs responses)).isSome ↔ completed :=
    isSome_latest?_iff_of_forall hDone
  refine ⟨?_, rfl, hDone, ?_,
    fun response hMem hCall =>
      exchanges_of_ne_run engine threshold history began
        hMem hCall,
    after_filter_matters engine threshold history began⟩
  · intro reading hReading
    rw [answer_eq_error_iff audit hReading, ← hCompleted,
      findings_eq_none_iff, hResults, hNegated,
      Option.map_eq_none_iff, Option.map_eq_none_iff,
      Option.not_isSome_iff_eq_none]
    constructor
    · rintro (hNoResults | hNoNegated)
      · rw [← Option.not_isSome_iff_eq_none]
        intro hSome
        have hFirst := isSome_latest?_expectedPart? hSome
        rw [hNoResults] at hFirst
        cases hFirst
      · exact hNoNegated
    · exact Or.inr
  · intro hSome
    rcases read_of_latest? hResults hNegated
        (hCompleted.mpr hSome) with
      ⟨first, second, hFirst, hSecond, hRead⟩
    rcases answer_of_read hRead with
      ⟨hTable, hTable', hPermitted, hForbidden, hVerdict⟩
    exact ⟨first, second, _, _, _, _, _, hFirst, hSecond,
      tabulates_of_latest?_expectedPart? hFirst,
      tabulates_of_latest?_deniedPart? hSecond,
      hTable, hTable', hPermitted, hForbidden, hVerdict,
      Findings.permitted_iff _, Findings.forbidden_iff _,
      Findings.verdict_eq_permitted_iff _,
      Findings.verdict_eq_forbidden_iff _,
      Findings.verdict_eq_mixed_iff _,
      answer_editCopies_of_read hRead⟩

end Audit

end Clearance
