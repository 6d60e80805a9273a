import Clearance.Proofs.CommandLine.Selection

/-
  Which requests are granted.

  A request is granted only if no argument is left over, so
  the command is the first of the arguments. A command is read
  from what stands behind its word, and the name that is to be
  looked up is one of those arguments.

  Key definitions include:
    * `Request.Granted`

  Key theorems include:
    * `Request.read_command`
    * `Request.granted_of_readFront`
-/

------------------------------------------------------------
-- Commands
------------------------------------------------------------

namespace Clearance

namespace CommandLine

namespace Request

/- A request is granted if nothing is left over. -/
theorem grant_eq_ok_iff
    {surplus : List String}
    {request granted : Request} :
    grant surplus request = .ok granted ↔
      surplus = [] ∧ request = granted := by
  cases surplus with
  | nil => simp [grant]
  | cons argument rest => simp [grant]

/- A word stands for the command that has this word. -/
theorem word_of_command?
    {word : String}
    {command : Command}
    (hWord : command? word = some command) :
    command.word = word :=
  beq_iff_eq.mp
    (List.find?_some
      (p := fun command : Command => command.word == word)
      hWord)

/- A command is read from what stands behind its word. -/
theorem read_command
    (command : Command)
    (arguments : List String) :
    read (command.word :: arguments) =
      match Selection.read command arguments with
      | .error halt => .error halt
      | .ok selection =>
        (ofSelection command selection).bind
          (grant selection.surplus) := by
  cases command <;> rfl

end Request

end CommandLine

end Clearance

------------------------------------------------------------
-- Granted Requests
------------------------------------------------------------

namespace Clearance

namespace CommandLine

namespace Request

/- Arguments for which a request may be granted. -/
inductive Granted : List String → Request → Prop where
  | nothing :
      Granted [] .nothing
  | behaviors
      (rest : List String)
      (format : Format) :
      Granted ("behaviors" :: rest) (.behaviors format)
  | resolve
      {rest : List String}
      (format : Format)
      {name : String}
      (hName : name ∈ rest) :
      Granted ("resolve" :: rest) (.resolve format name)

/- A selection makes a request of the command it is for. -/
theorem granted_of_selection
    {command : Command}
    {arguments : List String}
    {selection : Selection}
    (hRead :
      Selection.read command arguments = .ok selection)
    {request : Request}
    (hRequest :
      ofSelection command selection = .ok request) :
    Granted (command.word :: arguments) request := by
  unfold ofSelection at hRequest
  split at hRequest
  · cases hRequest
    exact .behaviors arguments selection.format
  · next name hName =>
    cases hRequest
    exact .resolve selection.format
      (Selection.name_mem_of_read hRead hName)
  · cases hRequest

/- If a command is granted, then nothing was left over. -/
theorem granted_of_readCommand
    {surplus : List String}
    {word : String}
    {arguments : List String}
    {request : Request}
    (hRead :
      readCommand surplus word arguments = .ok request) :
    surplus = [] ∧ Granted (word :: arguments) request := by
  unfold readCommand at hRead
  split at hRead
  · cases hRead
  · next command hWord =>
    split at hRead
    · cases hRead
    · next selection hSelection =>
      cases hRequest : ofSelection command selection with
      | error halt =>
          rw [hRequest] at hRead
          cases hRead
      | ok made =>
          rw [hRequest] at hRead
          rcases grant_eq_ok_iff.mp hRead with
            ⟨hSurplus, rfl⟩
          rw [← word_of_command? hWord]
          exact ⟨(List.append_eq_nil_iff.mp hSurplus).1,
            granted_of_selection hSelection hRequest⟩

/- A separator in front is never granted anything. -/
theorem readSeparator_ne_ok
    (surplus rest : List String)
    (request : Request) :
    readSeparator surplus rest ≠ .ok request := by
  intro hRead
  unfold readSeparator at hRead
  split at hRead
  · have hSurplus := (grant_eq_ok_iff.mp hRead).1
    exact List.append_ne_nil_of_right_ne_nil surplus
      (List.cons_ne_nil separator []) hSurplus
  · cases hRead

/- Nothing is left over in front of what is granted. -/
theorem granted_of_readFront
    {surplus arguments : List String}
    {request : Request}
    (hRead : readFront surplus arguments = .ok request) :
    surplus = [] ∧ Granted arguments request := by
  fun_induction readFront surplus arguments with
  | case1 surplus =>
      rcases grant_eq_ok_iff.mp hRead with ⟨hSurplus, rfl⟩
      exact ⟨hSurplus, .nothing⟩
  | case2 surplus rest =>
      exact absurd hRead (readSeparator_ne_ok surplus rest _)
  | case3 => cases hRead
  | case4 surplus argument rest _ word hToken =>
      rw [← Token.operand_of_ofArgument hToken]
      exact granted_of_readCommand hRead
  | case5 surplus argument rest _ text hToken ih =>
      have hSurplus := (ih hRead).1
      exact absurd hSurplus
        (List.append_ne_nil_of_right_ne_nil surplus
          (List.cons_ne_nil text []))
  | case6 => cases hRead
  | case7 => cases hRead

end Request

end CommandLine

end Clearance
