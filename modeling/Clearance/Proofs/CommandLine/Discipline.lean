import Clearance.Proofs.CommandLine.Outcome
import Clearance.Proofs.Helper

/-
  The discipline of the exit status and of the two streams.

  Whatever the arguments are, the status tells what has been
  put out where: an answer alone, the help for no arguments,
  the failure to know one of the arguments as a name, or a
  complaint below the usage that it refers to.

  Key definitions include:
    * `Output.Orderly`

  Key theorems include:
    * `run_orderly`
    * `exit_discipline`
-/

------------------------------------------------------------
-- Orderly Output
------------------------------------------------------------

namespace Clearance

/- Lines are never empty, as each of them is broken. -/
theorem Text.lines_cons_ne_empty
    (line : String)
    (rest : List String) :
    lines (line :: rest) ≠ "" := by
  intro hEmpty
  have hLetters := congrArg String.toList hEmpty
  simp [lines] at hLetters

namespace CommandLine

/- There is always something in a list of helpers. -/
theorem Listing.single_ne_empty
    (format : Format)
    (helper : Helper) :
    single format helper ≠ "" := by
  rw [← one_eq]
  cases format <;> exact Text.lines_cons_ne_empty _ _

theorem Listing.every_ne_empty
    (format : Format) :
    every format ≠ "" := by
  cases format <;> exact Text.lines_cons_ne_empty _ _

/- What may be put out for arguments, and with what status. -/
inductive Output.Orderly
    (arguments : List String) : Output → Prop where
  | answered
      {text : String}
      (hText : text ≠ "") :
      Orderly arguments ⟨0, text, ""⟩
  | unasked
      (hNone : arguments = []) :
      Orderly arguments ⟨1, Topic.overview.help, ""⟩
  | unknown
      {rest : List String}
      {name : String}
      (hCommand : arguments = "resolve" :: rest)
      (hName : name ∈ rest)
      (hUnknown :
        Helper.resolve name = .error (.unknownHelper name)) :
      Orderly arguments
        ⟨1, "",
          "Error: Unknown helper method: " ++
            Text.quote name ++ "\n"⟩
  | refused
      (topic : Topic)
      (reason : String) :
      Orderly arguments (.refused topic reason)

/- The words that report an unknown name. -/
theorem error_unknownHelper
    (name : String) :
    "Error: " ++ (Failure.unknownHelper name).message =
      "Error: Unknown helper method: " ++ Text.quote name :=
  calc "Error: " ++ (Failure.unknownHelper name).message
    _ = "Error: " ++ "Unknown helper method: " ++
        Text.quote name :=
      String.append_assoc.symm
    _ = "Error: Unknown helper method: " ++
        Text.quote name :=
      congrArg (· ++ Text.quote name) (by decide)

/- What is put out when an argument is looked up. -/
theorem lookUp_orderly
    {rest : List String}
    {name : String}
    (hName : name ∈ rest)
    (format : Format) :
    (Output.lookUp format name).Orderly
      ("resolve" :: rest) := by
  cases hResolve : Helper.resolve name with
  | ok helper =>
      rw [Output.lookUp, hResolve]
      exact .answered (Listing.single_ne_empty format helper)
  | error failure =>
      have hFailure := Helper.failure_of_resolve hResolve
      rw [Output.lookUp_of_error hResolve, hFailure,
        error_unknownHelper]
      rw [hFailure] at hResolve
      exact .unknown rfl hName hResolve

/- What is put out for a request that is granted. -/
theorem answer_orderly
    {arguments : List String}
    {request : Request}
    (hGranted : Request.Granted arguments request) :
    (answer request).Orderly arguments := by
  cases hGranted with
  | nothing =>
      exact .unasked rfl
  | behaviors rest format =>
      exact .answered (Listing.every_ne_empty format)
  | resolve format hName =>
      rw [answer_resolve]
      exact lookUp_orderly hName format

/- What is put out when the reading has ended early. -/
theorem excuse_orderly
    (arguments : List String)
    (halt : Halt) :
    (excuse halt).Orderly arguments := by
  cases halt with
  | help topic =>
      exact .answered (Text.lines_cons_ne_empty _ _)
  | misuse topic complaint =>
      exact .refused topic complaint.text

/- Whatever the arguments are, the output is orderly. -/
theorem run_orderly
    (arguments : List String) :
    (run arguments).Orderly arguments := by
  unfold run
  cases hRead : Request.read arguments with
  | ok request =>
      exact answer_orderly
        (Request.granted_of_readFront hRead).2
  | error halt =>
      exact excuse_orderly arguments halt

end CommandLine

end Clearance

------------------------------------------------------------
-- The Discipline
------------------------------------------------------------

namespace Clearance

namespace CommandLine

/-
  For any arguments, the status is at most two. It is zero
  only if something but no complaint is put out, and two only
  if there is a complaint alone, below one of the three lines
  of usage, in the name of the same topic. It is one only if
  there are no arguments and the help is put out, or if one of
  the arguments of a look-up is a name that is not known, and
  the complaint tells this name.
-/
theorem exit_discipline
    (arguments : List String) :
    let output := run arguments
    (output.status = 0 ∨ output.status = 1 ∨
        output.status = 2) ∧
      (output.status = 0 →
        output.err = "" ∧ output.out ≠ "") ∧
      (output.status = 2 →
        output.out = "" ∧
          ∃ usage program reason,
            (usage, program) ∈
                [ ("usage: permitspec [-h] " ++
                      "\x7bbehaviors,resolve\x7d ...",
                    "permitspec"),
                  ("usage: permitspec behaviors [-h] " ++
                      "[--format \x7btext,json\x7d]",
                    "permitspec behaviors"),
                  ("usage: permitspec resolve [-h] " ++
                      "[--format \x7btext,json\x7d] name",
                    "permitspec resolve")
                ] ∧
              output.err =
                usage ++ "\n" ++ program ++ ": error: " ++
                  reason ++ "\n") ∧
      (output.status = 1 →
        (arguments = [] ∧
            output.out = Topic.overview.page ∧
            output.err = "") ∨
          (arguments.head? = some "resolve" ∧
            output.out = "" ∧
            ∃ name ∈ arguments,
              Helper.resolve name =
                  .error (.unknownHelper name) ∧
                output.err =
                  "Error: Unknown helper method: " ++
                    Text.quote name ++ "\n")) := by
  intro output
  have hOrderly : output.Orderly arguments :=
    run_orderly arguments
  generalize output = found at hOrderly
  cases hOrderly with
  | answered hText =>
      refine ⟨Or.inl rfl, ?_, ?_, ?_⟩
      · intro _
        exact ⟨rfl, hText⟩
      · intro hStatus
        cases hStatus
      · intro hStatus
        cases hStatus
  | unasked hNone =>
      refine ⟨Or.inr (Or.inl rfl), ?_, ?_, ?_⟩
      · intro hStatus
        cases hStatus
      · intro hStatus
        cases hStatus
      · intro _
        exact Or.inl ⟨hNone, Topic.overview.help_eq, rfl⟩
  | unknown hCommand hName hUnknown =>
      refine ⟨Or.inr (Or.inl rfl), ?_, ?_, ?_⟩
      · intro hStatus
        cases hStatus
      · intro hStatus
        cases hStatus
      · intro _
        rw [hCommand]
        exact Or.inr ⟨rfl, rfl, _,
          List.mem_cons_of_mem _ hName, hUnknown, rfl⟩
  | refused topic reason =>
      refine ⟨Or.inr (Or.inr rfl), ?_, ?_, ?_⟩
      · intro hStatus
        cases hStatus
      · intro _
        refine ⟨rfl, topic.usage, topic.program, reason,
          topic.mem_usages, ?_⟩
        simp only [Output.refused, Text.lines,
          String.append_assoc, String.append_empty]
      · intro hStatus
        cases hStatus

end CommandLine

end Clearance
