import Clearance.Journal

/-
  Exchanges with a rule engine, and interrogations: the
  questions of a list put one after another, each to the
  engine as the earlier ones left it, up to and including
  the first one that raises a fault.

  Key definitions include:
    * `Exchange`
    * `Exchange.outcome`
    * `Exchange.firstFault?`
    * `Event.exchanges`
    * `Interrogation`

  Key theorems include:
    * `Interrogation.questions_prefix`
    * `Interrogation.questions_eq`
    * `Interrogation.fault?_of_mem_dropLast`
    * `Interrogation.questions_eq_take_of_fault`
    * `Interrogation.append`
-/

------------------------------------------------------------
-- Exchanges
------------------------------------------------------------

namespace Clearance

/- A question together with the reply to it. -/
structure Exchange where
  question : Question
  reply : Reply

namespace Exchange

/- The action that an exchange is about. -/
def action (exchange : Exchange) : Action :=
  exchange.question.action

/- Does the reply of an exchange stand for yes? -/
def outcome (exchange : Exchange) : Bool :=
  match exchange.reply with
  | .ok value => value.holds
  | .error _ => false

/- The fault that was raised in an exchange. -/
def fault? (exchange : Exchange) : Option Fault :=
  match exchange.reply with
  | .ok _ => none
  | .error fault => some fault

@[simp] theorem action_mk
    (question : Question)
    (reply : Reply) :
    action ⟨question, reply⟩ = question.action :=
  rfl

@[simp] theorem outcome_ok
    (question : Question)
    (value : Value) :
    outcome ⟨question, .ok value⟩ = value.holds :=
  rfl

/- Without a fault, the outcome is what the reply says. -/
theorem holds_reply
    {exchange : Exchange}
    (hFault : exchange.fault? = none) :
    exchange.reply.map Value.holds =
      .ok exchange.outcome := by
  rcases exchange with ⟨question, reply⟩
  cases reply with
  | ok value => rfl
  | error fault => cases hFault

/- The first fault that was raised. -/
def firstFault? (exchanges : List Exchange) : Option Fault :=
  exchanges.findSome? fault?

@[simp] theorem firstFault?_nil :
    firstFault? [] = none :=
  rfl

/- A value in front leaves the first fault where it is. -/
@[simp] theorem firstFault?_answered
    (question : Question)
    (value : Value)
    (exchanges : List Exchange) :
    firstFault? (⟨question, .ok value⟩ :: exchanges) =
      firstFault? exchanges :=
  rfl

/- A fault in front is the first one. -/
@[simp] theorem firstFault?_stopped
    (question : Question)
    (fault : Fault)
    (exchanges : List Exchange) :
    firstFault? (⟨question, .error fault⟩ :: exchanges) =
      some fault :=
  rfl

/- Without a first fault there is no fault at all. -/
theorem fault?_eq_none_of_firstFault?
    {exchanges : List Exchange}
    (hNone : firstFault? exchanges = none)
    {exchange : Exchange}
    (hMem : exchange ∈ exchanges) :
    exchange.fault? = none :=
  List.findSome?_eq_none_iff.mp hNone exchange hMem

/- The faults in front come first. -/
theorem firstFault?_append
    (first second : List Exchange) :
    firstFault? (first ++ second) =
      (firstFault? first).or (firstFault? second) :=
  List.findSome?_append

/- Without a fault in front, the first one comes behind. -/
theorem firstFault?_append_of_faultless
    {first : List Exchange}
    (second : List Exchange)
    (hFaultless : firstFault? first = none) :
    firstFault? (first ++ second) = firstFault? second := by
  rw [firstFault?_append, hFaultless, Option.none_or]

end Exchange

end Clearance

------------------------------------------------------------
-- Exchanges Among Events
------------------------------------------------------------

namespace Clearance

namespace Event

/- The exchange of an event. -/
def exchange? : Event → Option Exchange
  | .asked question reply => some ⟨question, reply⟩
  | .noted _ => none

/- The exchanges among the events, in order. -/
def exchanges (events : List Event) : List Exchange :=
  events.filterMap exchange?

@[simp] theorem exchanges_nil :
    exchanges [] = [] :=
  rfl

@[simp] theorem exchanges_asked
    (question : Question)
    (reply : Reply)
    (events : List Event) :
    exchanges (.asked question reply :: events) =
      ⟨question, reply⟩ :: exchanges events :=
  rfl

@[simp] theorem exchanges_append
    (first second : List Event) :
    exchanges (first ++ second) =
      exchanges first ++ exchanges second :=
  List.filterMap_append

/- The questions are those of the exchanges. -/
theorem questions_eq_map
    (events : List Event) :
    questions events =
      (exchanges events).map Exchange.question := by
  induction events with
  | nil =>
      rfl
  | cons event rest ih =>
      cases event with
      | asked question reply =>
          rw [exchanges_asked, List.map_cons, ← ih]
          rfl
      | noted entry =>
          exact ih

/- Nothing is asked by writing to the log. -/
@[simp] theorem exchanges_note
    (threshold : Level)
    (entry : Entry) :
    exchanges (note threshold entry) = [] := by
  unfold note
  split
  · rfl
  · rfl

end Event

end Clearance

------------------------------------------------------------
-- Interrogations
------------------------------------------------------------

namespace Clearance

variable {σ : Type}

/-
  Questions are put to an engine in a state, which gives the
  exchanges and leaves the engine in another state.
-/
inductive Interrogation
    (engine : Engine σ) :
    List Question → σ → List Exchange → σ → Prop where
  /- Nothing is left to ask. -/
  | finished (state : σ) :
    Interrogation engine [] state [] state
  /- The next question is answered, and the rest follow. -/
  | answered
      {question : Question}
      {rest : List Question}
      {state next last : σ}
      {value : Value}
      {exchanges : List Exchange}
      (hReply : engine question state = (.ok value, next))
      (hRest :
        Interrogation engine rest next exchanges last) :
    Interrogation engine (question :: rest) state
      (⟨question, .ok value⟩ :: exchanges) last
  /- The next question raises a fault, and none follows. -/
  | stopped
      {question : Question}
      {rest : List Question}
      {state next : σ}
      {fault : Fault}
      (hReply : engine question state = (.error fault, next)) :
    Interrogation engine (question :: rest) state
      [⟨question, .error fault⟩] next

namespace Interrogation

variable {engine : Engine σ}
variable {questions more : List Question}
variable {state middle last : σ}
variable {exchanges others : List Exchange}

/- The questions are put in order, none of them skipped. -/
theorem questions_prefix
    (hAsked :
      Interrogation engine questions state exchanges last) :
    exchanges.map Exchange.question <+: questions := by
  induction hAsked with
  | finished state =>
      simp
  | answered hReply hRest ih =>
      simpa using ih
  | stopped hReply =>
      simp

/- Without a fault, all of the questions are put. -/
theorem questions_eq
    (hAsked :
      Interrogation engine questions state exchanges last)
    (hFaultless : Exchange.firstFault? exchanges = none) :
    exchanges.map Exchange.question = questions := by
  induction hAsked with
  | finished state =>
      rfl
  | answered hReply hRest ih =>
      have hTail := ih (by simpa using hFaultless)
      simp [hTail]
  | stopped hReply =>
      simp at hFaultless

/- Without a fault, there are as many exchanges. -/
theorem length_eq
    (hAsked :
      Interrogation engine questions state exchanges last)
    (hFaultless : Exchange.firstFault? exchanges = none) :
    exchanges.length = questions.length := by
  rw [← hAsked.questions_eq hFaultless, List.length_map]

/- Only the last question can have raised a fault. -/
theorem fault?_of_mem_dropLast
    (hAsked :
      Interrogation engine questions state exchanges last)
    {exchange : Exchange}
    (hMem : exchange ∈ exchanges.dropLast) :
    exchange.fault? = none := by
  induction hAsked with
  | finished state =>
      simp at hMem
  | @answered question _ _ _ _ value tail hReply hRest ih =>
      cases tail with
      | nil =>
          simp at hMem
      | cons next later =>
          rw [List.dropLast_cons_cons,
            List.mem_cons] at hMem
          rcases hMem with hHead | hTail
          · subst hHead
            rfl
          · exact ih hTail
  | stopped hReply =>
      simp at hMem

/- A fault that was raised is the first one. -/
theorem firstFault?_of_mem
    (hAsked :
      Interrogation engine questions state exchanges last)
    {exchange : Exchange}
    (hMem : exchange ∈ exchanges)
    {fault : Fault}
    (hFault : exchange.fault? = some fault) :
    Exchange.firstFault? exchanges = some fault := by
  induction hAsked with
  | finished state =>
      simp at hMem
  | answered hReply hRest ih =>
      rcases List.mem_cons.mp hMem with hHead | hTail
      · subst hHead
        simp [Exchange.fault?] at hFault
      · simpa using ih hTail
  | stopped hReply =>
      have hHead := List.mem_singleton.mp hMem
      subst hHead
      simpa [Exchange.fault?] using hFault

/- A fault that was raised is at the end. -/
theorem length_eq_of_fault
    (hAsked :
      Interrogation engine questions state exchanges last)
    {position : Nat}
    {exchange : Exchange}
    (hAt : exchanges[position]? = some exchange)
    {fault : Fault}
    (hFault : exchange.fault? = some fault) :
    exchanges.length = position + 1 := by
  induction hAsked generalizing position with
  | finished state =>
      simp at hAt
  | answered hReply hRest ih =>
      cases position with
      | zero =>
          rw [List.getElem?_cons_zero,
            Option.some_inj] at hAt
          subst hAt
          simp [Exchange.fault?] at hFault
      | succ position =>
          rw [List.getElem?_cons_succ] at hAt
          rw [List.length_cons, ih hAt]
  | stopped hReply =>
      cases position with
      | zero => rfl
      | succ position => simp at hAt

/- A fault is raised by the last question that is put. -/
theorem questions_eq_take_of_fault
    (hAsked :
      Interrogation engine questions state exchanges last)
    {position : Nat}
    {exchange : Exchange}
    (hAt : exchanges[position]? = some exchange)
    {fault : Fault}
    (hFault : exchange.fault? = some fault) :
    exchanges.map Exchange.question =
      questions.take (position + 1) := by
  have hLength :
      (exchanges.map Exchange.question).length =
        position + 1 := by
    rw [List.length_map, hAsked.length_eq_of_fault hAt hFault]
  rw [← hLength]
  exact List.prefix_iff_eq_take.mp hAsked.questions_prefix

/- If there is a question, there is an exchange. -/
theorem exchanges_ne_nil
    (hAsked :
      Interrogation engine questions state exchanges last)
    (hSome : questions ≠ []) :
    exchanges ≠ [] := by
  cases hAsked with
  | finished state => exact absurd rfl hSome
  | answered hReply hRest => exact List.cons_ne_nil _ _
  | stopped hReply => exact List.cons_ne_nil _ _

/- If the first question raises a fault, it is the only one. -/
theorem eq_singleton_of_fault
    {question : Question}
    {rest : List Question}
    {fault : Fault}
    (hAsked :
      Interrogation engine (question :: rest) state exchanges
        last)
    (hFault : (engine question state).1 = .error fault) :
    exchanges = [⟨question, .error fault⟩] := by
  cases hAsked with
  | answered hReply hRest =>
      rw [hReply] at hFault
      cases hFault
  | stopped hReply =>
      rw [hReply] at hFault
      cases hFault
      rfl

/- A fault keeps all that would follow from being asked. -/
theorem extend_of_fault
    (hAsked :
      Interrogation engine questions state exchanges last)
    {fault : Fault}
    (hFault : Exchange.firstFault? exchanges = some fault)
    (more : List Question) :
    Interrogation engine (questions ++ more) state
      exchanges last := by
  induction hAsked with
  | finished state =>
      simp at hFault
  | answered hReply hRest ih =>
      exact .answered hReply (ih (by simpa using hFault))
  | stopped hReply =>
      exact .stopped hReply

/- Without a fault, further questions can follow. -/
theorem append
    (hFirst :
      Interrogation engine questions state exchanges middle)
    (hFaultless : Exchange.firstFault? exchanges = none)
    (hSecond :
      Interrogation engine more middle others last) :
    Interrogation engine (questions ++ more) state
      (exchanges ++ others) last := by
  induction hFirst with
  | finished state =>
      exact hSecond
  | answered hReply hRest ih =>
      refine .answered hReply (ih ?_ hSecond)
      simpa using hFaultless
  | stopped hReply =>
      simp at hFaultless

end Interrogation

end Clearance
