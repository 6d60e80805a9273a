import Clearance.Proofs.Expectation.Report
import Clearance.Proofs.Session.Likeness
import Mathlib.Algebra.Order.Field.Rat
import Mathlib.Data.Nat.Cast.Order.Field
import Mathlib.Tactic.Positivity

/-
  Of a reply, only its truth matters.

  Let an engine say yes or no where it gave a value, and be
  the same in all else. It matches the engine that it was, so
  that nothing in the reports of a session, or of an audit
  alone, tells the two apart.

  Key definitions include:
    * `Value.Blank`
    * `Engine.yesNo`
    * `Report.TellsTruth`

  Key theorems include:
    * `Value.isZero_iff`
    * `Value.holds_eq_false_iff`
    * `Engine.matches_yesNo`
    * `Session.reports_of_yes_or_no`
-/

------------------------------------------------------------
-- Values That Stand For No
------------------------------------------------------------

namespace Clearance

namespace Value

theorem cast_pow_two
    (exponent : Nat) :
    ((Nat.pow 2 exponent : Nat) : ℚ) = 2 ^ exponent := by
  rw [Nat.pow_eq, Nat.cast_pow, Nat.cast_ofNat]

theorem cast_halvesInOne :
    (halvesInOne : ℚ) = 2 ^ 1075 := by
  unfold halvesInOne
  apply cast_pow_two

/-
  A number with decimal places is zero if it is no further
  from zero than half of the least positive number of double
  precision.
-/
theorem isZero_succ_iff
    (units : Int)
    (places : Nat) :
    isZero units (places + 1) = true ↔
      |(units : ℚ)| / 10 ^ (places + 1) ≤ 1 / 2 ^ 1075 := by
  rw [div_le_div_iff₀ (by positivity) (by positivity),
    one_mul, ← cast_halvesInOne, ← Int.cast_abs,
    ← Nat.cast_natAbs]
  simp only [isZero, decide_eq_true_iff]
  norm_cast

/-
  The values that stand for no: nothing, false, zero of either
  kind, and whatever is empty.
-/
inductive Blank : Value → Prop where
  | null : Blank .null
  | false : Blank (.flag false)
  | integer : Blank (.number 0 0)
  | decimal
    {units : Int}
    {places : Nat}
    (hZero :
      |(units : ℚ)| / 10 ^ (places + 1) ≤ 1 / 2 ^ 1075) :
    Blank (.number units (places + 1))
  | text : Blank (.text "")
  | list : Blank (.list [])
  | record : Blank (.record [])

/- Zero is zero, with whatever number of decimal places. -/
theorem blank_zero
    (places : Nat) :
    Blank (.number 0 places) := by
  cases places with
  | zero => exact .integer
  | succ places =>
      apply Blank.decimal
      rw [Int.cast_zero, abs_zero, zero_div]
      positivity

/- A value stands for no exactly if it is one of these. -/
theorem holds_eq_false_iff
    {value : Value} :
    value.holds = false ↔ value.Blank := by
  constructor
  · intro hHolds
    cases value with
    | null => exact .null
    | flag value =>
        rw [show value = false from hHolds]
        exact .false
    | number units places =>
        have hZero : isZero units places = true := by
          simpa [holds] using hHolds
        cases places with
        | zero =>
            rw [show units = 0 from beq_iff_eq.mp hZero]
            exact .integer
        | succ places =>
            exact .decimal
              ((isZero_succ_iff units places).mp hZero)
    | text value =>
        rw [show value = "" from
          bne_eq_false_iff_eq.mp hHolds]
        exact .text
    | list items =>
        have hEmpty : items = [] := by
          simpa [holds] using hHolds
        rw [hEmpty]
        exact .list
    | record fields =>
        have hEmpty : fields = [] := by
          simpa [holds] using hHolds
        rw [hEmpty]
        exact .record
  · intro hBlank
    cases hBlank with
    | null => rfl
    | false => rfl
    | integer => rfl
    | decimal hZero =>
        rw [holds, (isZero_succ_iff _ _).mpr hZero]
        rfl
    | text => rfl
    | list => rfl
    | record => rfl

/- What looks like no can still stand for yes. -/
example :
    [Value.text "0", .text "False", .list [.null],
      .number (-1) 0].all holds = true := by
  decide

end Value

end Clearance

------------------------------------------------------------
-- Yes And No In Place Of Values
------------------------------------------------------------

namespace Clearance

namespace Engine

variable {σ : Type}

/- An engine, with yes or no in place of each value. -/
def yesNo (engine : Engine σ) : Engine σ :=
  fun question state =>
    let (reply, next) := engine question state
    (reply.map fun value => .flag value.holds, next)

/- It cannot be told from the engine itself. -/
theorem matches_yesNo
    (engine : Engine σ) :
    engine.yesNo.Matches Eq engine := by
  intro question state state' hState
  subst hState
  refine ⟨?_, rfl⟩
  simp only [yesNo]
  cases (engine question state).1 with
  | ok value => rfl
  | error fault => rfl

end Engine

end Clearance

------------------------------------------------------------
-- Truth In Texts
------------------------------------------------------------

namespace Clearance

/-
  The entries that an audit logged say true or false of one
  of the questions.
-/
def Report.TellsTruth
    {α : Type}
    (report : Report α) : Prop :=
  ∀ entries, report.log = some entries →
    ∀ entry ∈ entries, entry.source = .audit →
      ∃ question ∈ report.questions, ∃ outcome : Bool,
        entry.text =
          "check " ++ question.controller.shortName ++ "#" ++
            question.action ++ " for " ++ question.role ++
            ": " ++ if outcome then "True" else "False"

/- It is so if they are entries on exchanges. -/
theorem Report.tellsTruth_ofRun
    {σ α : Type}
    {run : Run σ Answer}
    (hEntries :
      ∀ entry ∈ Event.entries run.events,
        entry.source = .expectation ∨
          ∃ exchange ∈ Event.exchanges run.events,
            exchange.noted? = some entry)
    (log : Log)
    (after : α) :
    (ofRun log run after).TellsTruth := by
  intro entries hLog entry hMem hSource
  rcases Option.map_eq_some_iff.mp hLog with
    ⟨level, _, hKept⟩
  rw [← hKept] at hMem
  rcases hEntries entry hMem with
    hVerdict | ⟨⟨question, reply⟩, hExchange, hEntry⟩
  · cases hVerdict.symm.trans hSource
  · cases reply with
    | error fault => cases hEntry
    | ok value =>
        have hQuestion :
            question ∈ Event.questions run.events := by
          rw [Event.questions_eq_map]
          exact List.mem_map_of_mem hExchange
        refine ⟨question, hQuestion, value.holds, ?_⟩
        rw [← Option.some_inj.mp hEntry]

end Clearance

------------------------------------------------------------
-- Sessions And Audits
------------------------------------------------------------

namespace Clearance

/- A report is on what the audit has found. -/
theorem Expectation.findings_of_report
    {expectation : Expectation}
    {opening message : String}
    (hReport : expectation.report opening = .ok message) :
    ∃ audit findings,
      expectation.audit = some audit ∧
        audit.read = .ok findings ∧
        message =
          opening ++
            account audit.privilege.controller
              expectation.description findings := by
  cases hAudit : expectation.audit with
  | none =>
      simp only [report, hAudit] at hReport
      cases hReport
  | some audit =>
      cases hRead : audit.read with
      | error failure =>
          simp only [report, hAudit, hRead] at hReport
          cases hReport
      | ok findings =>
          rw [report_of_read hAudit hRead] at hReport
          exact ⟨audit, findings, rfl, hRead,
            (Except.ok.inj hReport).symm⟩

namespace Session

variable {ι κ σ : Type}
variable [DecidableEq ι]
variable [DecidableEq κ]

/-
  Let some or all of the engines of a session, or the engine
  of an audit alone, say yes or no in place of a value, but
  raise the same faults and go through the same states. Then
  all is reported as before: results and failures, questions,
  logs and what is left behind. No is said for what is blank,
  and yes for all else. In particular, whatever is logged or
  printed as an outcome is true or false, as is by its type
  whatever a table keeps.
-/
theorem reports_of_yes_or_no
    (setting : Setting ι κ σ)
    (chosen : κ → Bool)
    (steps : List (ι × Expectation.Step))
    (session : Session ι κ σ)
    (engine : Engine σ)
    (log : Log)
    (calls : List Audit.Call)
    (audit : Audit)
    (state : σ) :
    let replaced : Setting ι κ σ :=
      { setting with
        engine := fun shared =>
          if chosen shared then
            (setting.engine shared).yesNo
          else
            setting.engine shared }
    let shown := fun entries : List (Action × Bool) =>
      "\x7b" ++
        ", ".intercalate
          (entries.map fun entry =>
            Text.quote entry.1 ++ ": " ++
              if entry.2 then "True" else "False") ++
        "\x7d"
    reports replaced steps session =
        reports setting steps session ∧
      Audit.reports engine.yesNo log calls audit state =
        Audit.reports engine log calls audit state ∧
      (∀ question before,
        engine.yesNo question before =
          ((engine question before).1.map
              fun value => .flag value.holds,
            (engine question before).2)) ∧
      (∀ value : Value,
        value.holds = false ↔ value.Blank) ∧
      (∀ places, Value.Blank (.number 0 places)) ∧
      (∀ reported ∈ reports setting steps session,
        reported.2.TellsTruth) ∧
      (∀ report ∈ Audit.reports engine log calls audit state,
        report.TellsTruth) ∧
      ∀ (expectation : Expectation)
        (opening message : String),
        expectation.report opening = .ok message →
          ∃ audit findings,
            expectation.audit = some audit ∧
              audit.read = .ok findings ∧
              message =
                opening ++
                  (audit.privilege.controller.qualifiedName ++
                    " to " ++ expectation.description ++
                    ". results: " ++
                    shown findings.results.entries ++
                    ", negated_results: " ++
                    shown findings.negated.entries) := by
  intro replaced shown
  refine ⟨?_, ?_, fun _ _ => rfl,
    fun _ => Value.holds_eq_false_iff, Value.blank_zero,
    ?_, ?_, ?_⟩
  · have hMatches : replaced.Matches setting := by
      refine ⟨rfl, ?_⟩
      intro shared
      by_cases hChosen : chosen shared = true
      · simp only [replaced, if_pos hChosen]
        exact (setting.engine shared).matches_yesNo
      · simp only [replaced, if_neg hChosen]
        exact (setting.engine shared).matches_self
    exact reports_of_matches hMatches rfl steps session
  · exact Audit.reports_of_matches engine.matches_yesNo calls
      audit state
  · intro reported hMem
    rcases exists_step_of_mem_reports hMem with
      ⟨now, taken, hReport⟩
    rw [hReport]
    apply Report.tellsTruth_ofRun
    intro entry hEntry
    exact (Expectation.mem_entries_step hEntry).2
  · intro report hMem
    rcases Audit.exists_call_of_mem_reports hMem with
      ⟨now, call, before, hReport⟩
    rw [hReport]
    apply Report.tellsTruth_ofRun
    intro entry hEntry
    rw [Audit.events_perform] at hEntry
    exact Or.inr
      (Exchange.mem_entries_flatMap_trace hEntry).2
  · intro expectation opening message hReport
    rcases Expectation.findings_of_report hReport with
      ⟨audit, findings, hAudit, hRead, hMessage⟩
    refine ⟨audit, findings, hAudit, hRead, ?_⟩
    rw [hMessage, Expectation.account_eq]

end Session

end Clearance
