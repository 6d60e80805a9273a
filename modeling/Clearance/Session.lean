import Clearance.Expectation.Step

/-
  Sessions: steps on several expectations, over engines that
  some of the expectations may share.

  Each step is reported with its result, the questions that
  were asked, the log entries if a log is kept, and the state
  that it leaves. A single audit is reported in the same way.

  Key definitions include:
    * `Report`
    * `Log`
    * `Session.Setting`
    * `Session`
    * `Session.step`
    * `Session.reports`
    * `Audit.reports`
-/

------------------------------------------------------------
-- Reports
------------------------------------------------------------

namespace Clearance

/-
  The level of the log, if one is kept. Without a log, only
  warnings would be written.
-/
abbrev Log := Option Level

namespace Log

/- The level that an entry has to reach. -/
def threshold (log : Log) : Level :=
  log.getD .warning

/- The entries among the events, if a log is kept. -/
def kept
    (log : Log)
    (events : List Event) : Option (List Entry) :=
  log.map fun _ => Event.entries events

end Log

/- What is reported of a step that left `after` behind. -/
structure Report (α : Type) where
  result : Except Failure Answer
  questions : List Question
  log : Option (List Entry)
  after : α

/- The report of a run. -/
def Report.ofRun
    {σ α : Type}
    (log : Log)
    (run : Run σ Answer)
    (after : α) : Report α where
  result := run.result
  questions := Event.questions run.events
  log := log.kept run.events
  after := after

end Clearance

------------------------------------------------------------
-- Audits Alone
------------------------------------------------------------

namespace Clearance

namespace Audit

variable {σ : Type}

/- The reports of calls on an audit, one after another. -/
def reports
    (engine : Engine σ)
    (log : Log) :
    List Call →
    Audit →
    σ →
    List (Report Audit)
  | [], _, _ => []
  | call :: rest, audit, state =>
    let (run, after) :=
      audit.perform engine log.threshold call state
    Report.ofRun log run after ::
      reports engine log rest after run.engine

end Audit

end Clearance

------------------------------------------------------------
-- Sessions
------------------------------------------------------------

namespace Clearance

namespace Session

/-
  What stays fixed in a session: the engines, the engine of
  each expectation, and the log.
-/
structure Setting (ι κ σ : Type) where
  engine : κ → Engine σ
  binding : ι → κ
  log : Log

end Session

/-
  What changes in a session: the states of the engines, and
  the expectations.
-/
structure Session (ι κ σ : Type) where
  state : κ → σ
  expectation : ι → Expectation

namespace Session

variable {α β ι κ σ : Type}

/- Put a value in the place of one index. -/
def place
    [DecidableEq α]
    (f : α → β)
    (index : α)
    (value : β) : α → β :=
  fun other => if other = index then value else f other

/- Take a step on one of the expectations. -/
def step
    [DecidableEq ι]
    [DecidableEq κ]
    (setting : Setting ι κ σ)
    (session : Session ι κ σ)
    (index : ι)
    (taken : Expectation.Step) :
    Report Expectation × Session ι κ σ :=
  let shared := setting.binding index
  let (run, after) :=
    (session.expectation index).step (setting.engine shared)
      setting.log.threshold taken (session.state shared)
  (Report.ofRun setting.log run after,
    { state := place session.state shared run.engine
      expectation := place session.expectation index after })

/- The reports of steps, each with its expectation. -/
def reports
    [DecidableEq ι]
    [DecidableEq κ]
    (setting : Setting ι κ σ) :
    List (ι × Expectation.Step) →
    Session ι κ σ →
    List (ι × Report Expectation)
  | [], _ => []
  | (index, taken) :: rest, session =>
    let (report, after) := session.step setting index taken
    (index, report) :: reports setting rest after

end Session

end Clearance
