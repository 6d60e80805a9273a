import Clearance.Proofs.CommandLine.Outcome
import Clearance.Proofs.Helper
import Clearance.Proofs.Text.Printed

/-
  The words that reject a name.

  A name that no helper has is rejected with the name itself
  in quotes. It can be read back from there, so that no two
  names are rejected in the same words; and whatever the name
  holds, its rejection stays on one line.

  Key definitions include:
    * `Helper.rejected?`

  Key theorems include:
    * `Helper.rejected?_message`
    * `CommandLine.run_of_unknown`
    * `Helper.rejection_tells_name`
-/

------------------------------------------------------------
-- Reading The Name Back
------------------------------------------------------------

namespace Clearance

namespace Helper

/- The name that is rejected, read from the rejection. -/
def rejected? (message : String) : Option String := do
  let quoted ←
    "Unknown helper method: ".toList.isPrefixOf?
      message.toList
  let (name, behind) ← Text.Quoted.decode quoted
  if behind.isEmpty then
    some (String.ofList name)
  else
    none

/- Every name is read back as it is. -/
theorem rejected?_message
    (name : String) :
    rejected? (Failure.unknownHelper name).message =
      some name := by
  have hLetters :
      (Failure.unknownHelper name).message.toList =
        "Unknown helper method: ".toList ++
          Text.Quoted.encode name.toList := by
    unfold Failure.message Text.quote
    simp only [String.toList_append, String.toList_ofList]
  have hQuoted :=
    List.isPrefixOf?_eq_some_iff_append_eq.mpr hLetters.symm
  have hRead := Text.Quoted.decode_encode name.toList []
  rw [List.append_nil] at hRead
  unfold rejected?
  simp only [hQuoted, hRead, Option.bind_eq_bind,
    Option.bind_some, List.isEmpty_nil, if_true,
    String.ofList_toList]

end Helper

end Clearance

------------------------------------------------------------
-- Rejection On The Command Line
------------------------------------------------------------

namespace Clearance

namespace CommandLine

/- A name that is asked for and not known is reported alone. -/
theorem run_of_unknown
    {arguments : List String}
    {format : Format}
    {name : String}
    {failure : Failure}
    (hRead :
      Request.read arguments = .ok (.resolve format name))
    (hUnknown : Helper.resolve name = .error failure) :
    run arguments =
      ⟨1, "", "Error: " ++ failure.message ++ "\n"⟩ := by
  rw [run, hRead, ← Output.lookUp_of_error hUnknown format]
  exact answer_resolve format name

/- Behind the separator, every name can be asked for. -/
theorem read_name_behind_separator
    (name : String) :
    Request.read ["resolve", "--", name] =
      .ok (.resolve .text name) :=
  rfl

end CommandLine

end Clearance

------------------------------------------------------------
-- Rejections
------------------------------------------------------------

namespace Clearance

namespace Helper

open CommandLine

/-
  If a name is rejected, then in words that quote it. The name
  is read back from them, and another name is rejected in
  other words. The quoted name has no control character, no
  delete character and no character of the table. So, however
  the name is asked for on the command line, as any name can
  be behind the separator, what comes out is one line.
-/
theorem rejection_tells_name
    {name : String}
    {failure : Failure}
    (hRejected : resolve name = .error failure) :
    failure.message =
        "Unknown helper method: " ++ Text.quote name ∧
      rejected? failure.message = some name ∧
      (∀ other failure',
        resolve other = .error failure' →
        failure'.message = failure.message →
          other = name) ∧
      (∀ c ∈ (Text.quote name).toList,
        0x20 ≤ c.toNat ∧
          c.toNat ≠ 0x7f ∧
          Text.covers Text.unprintable c.toNat = false) ∧
      (∀ arguments format,
        Request.read arguments =
            .ok (.resolve format name) →
          ∃ line,
            run arguments = ⟨1, "", line ++ "\n"⟩ ∧
              line = "Error: " ++ failure.message ∧
              Text.Printed line ∧
              '\n' ∉ line.toList) ∧
      Request.read ["resolve", "--", name] =
        .ok (.resolve .text name) := by
  have hFailure := failure_of_resolve hRejected
  subst hFailure
  have hTold := rejected?_message name
  refine ⟨rfl, hTold, ?_, ?_, ?_,
    read_name_behind_separator name⟩
  · intro other failure' hOther hSame
    rw [failure_of_resolve hOther] at hSame
    have hToldOther := rejected?_message other
    rw [hSame, hTold] at hToldOther
    exact (Option.some.inj hToldOther).symm
  · intro c hMem
    exact (Text.isPrintable_iff c).mp
      (Text.printed_quote name c hMem)
  · intro arguments format hRead
    have hOpening :
        Text.Printed "Unknown helper method: " := by
      decide
    have hError : Text.Printed "Error: " := by
      decide
    have hLine :=
      hError.append (hOpening.append (Text.printed_quote name))
    exact ⟨_, run_of_unknown hRead hRejected, rfl, hLine,
      hLine.break_notMem⟩

/-
  A control character is not taken for the characters of its
  escape, and does not reach the line that rejects it.
-/
theorem rejection_tells_control_character :
    let name := "to_\x01"
    let spelled := "to_\\x01"
    (Failure.unknownHelper name).message ≠
        (Failure.unknownHelper spelled).message ∧
      run ["resolve", "--", name] =
        ⟨1, "",
          "Error: Unknown helper method: 'to_\\x01'\n"⟩ := by
  intro name spelled
  have hName : resolve name = .error (.unknownHelper name) := by
    decide
  have hSpelled :
      resolve spelled = .error (.unknownHelper spelled) := by
    decide
  rcases rejection_tells_name hName with
    ⟨_, _, hApart, _, hRun, hRead⟩
  constructor
  · intro hSame
    exact absurd (hApart spelled _ hSpelled hSame.symm)
      (by decide)
  · rcases hRun _ _ hRead with ⟨line, hOutput, hLine, _⟩
    rw [hOutput, hLine]
    decide

end Helper

end Clearance
