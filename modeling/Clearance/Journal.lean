import Clearance.Engine

/-
  What can be observed while questions are asked: the
  questions with their replies, and the entries of a log.
  A run is a result together with what was observed.

  An entry is written only if its level reaches the level
  that the log is kept at.

  Key definitions include:
    * `Level`
    * `Level.admits`
    * `Entry`
    * `Event`
    * `Event.note`
    * `Event.questions`
    * `Event.entries`
    * `Run`
-/

------------------------------------------------------------
-- Log Entries
------------------------------------------------------------

namespace Clearance

/- The levels of a log, from the most to the least detail. -/
inductive Level where
  | debug
  | info
  | warning
  deriving DecidableEq

namespace Level

/- The height of a level. -/
def height : Level → Nat
  | .debug => 10
  | .info => 20
  | .warning => 30

/- The name of a level. -/
def name : Level → String
  | .debug => "DEBUG"
  | .info => "INFO"
  | .warning => "WARNING"

/- Does a log kept at one level take entries of another? -/
def admits
    (threshold level : Level) : Bool :=
  threshold.height ≤ level.height

end Level

/- The parts that write entries. -/
inductive Source where
  | audit
  | expectation
  deriving DecidableEq

/- The name under which a part writes. -/
def Source.name : Source → String
  | .audit => "permitspec.resource"
  | .expectation => "permitspec.matcher"

/- An entry of a log. -/
structure Entry where
  source : Source
  level : Level
  text : String
  deriving DecidableEq

end Clearance

------------------------------------------------------------
-- Events
------------------------------------------------------------

namespace Clearance

/- A question with its reply, or an entry of the log. -/
inductive Event where
  | asked (question : Question) (reply : Reply)
  | noted (entry : Entry)

namespace Event

/- Write an entry, if the log takes it. -/
def note
    (threshold : Level)
    (entry : Entry) : List Event :=
  if threshold.admits entry.level then
    [.noted entry]
  else
    []

/- The question of an event. -/
def question? : Event → Option Question
  | .asked question _ => some question
  | .noted _ => none

/- The entry of an event. -/
def entry? : Event → Option Entry
  | .asked _ _ => none
  | .noted entry => some entry

/- The questions among the events, in order. -/
def questions (events : List Event) : List Question :=
  events.filterMap question?

/- The entries among the events, in order. -/
def entries (events : List Event) : List Entry :=
  events.filterMap entry?

end Event

end Clearance

------------------------------------------------------------
-- Runs
------------------------------------------------------------

namespace Clearance

/-
  What a run leaves behind: its result, the state of the
  engine after it, and the events in order.
-/
structure Run (σ α : Type) where
  result : Except Failure α
  engine : σ
  events : List Event

namespace Run

variable {σ α β : Type}

/- A result that needs no question. -/
def quiet
    (result : Except Failure α)
    (engine : σ) : Run σ α :=
  ⟨result, engine, []⟩

/- Put events in front of a run. -/
def preceded
    (events : List Event)
    (run : Run σ α) : Run σ α :=
  { run with events := events ++ run.events }

/- Replace the result of a run. -/
def mapResult
    (f : Except Failure α → Except Failure β)
    (run : Run σ α) : Run σ β :=
  ⟨f run.result, run.engine, run.events⟩

end Run

end Clearance
