import Clearance.Proofs.CommandLine.Outcome
import Clearance.Proofs.Expectation.Meaning
import Clearance.Proofs.Helper.Grammar

/-
  Looking up a name on the command line.

  A name may stand anywhere among the options, or behind the
  separator, where it may look like anything. Either way it
  is looked up as it is written, and what comes out agrees
  with turning an expectation to the helper of that name.

  Key definitions include:
    * `Choice`

  Key theorems include:
    * `run_name_among_choices`
    * `run_name_behind_choices`
    * `status_lookUp_eq_zero_iff`
    * `look_up_anywhere`
-/

------------------------------------------------------------
-- Choices
------------------------------------------------------------

namespace Clearance

namespace CommandLine

/- The word for a format. -/
def Format.word : Format → String
  | .text => "text"
  | .json => "json"

/- A format option that is not refused. -/
structure Choice where
  format : Format
  /- Is the value in the same argument? -/
  attached : Bool

namespace Choice

/- A choice as it is written. -/
def arguments : Choice → List String
  | ⟨format, true⟩ => ["--format=" ++ format.word]
  | ⟨format, false⟩ => ["--format", format.word]

/- The format of the last choice, or text if there is none. -/
def last (choices : List Choice) : Format :=
  (choices.map Choice.format).getLastD .text

theorem plain_word
    (format : Format) :
    Plain format.word := by
  cases format <;> decide

/- A choice as an item. -/
def item : Choice → Item
  | ⟨format, true⟩ => .attached format.word
  | ⟨format, false⟩ =>
    .spaced ⟨format.word, plain_word format⟩

theorem arguments_item
    (choice : Choice) :
    choice.item.arguments = choice.arguments := by
  rcases choice with ⟨format, _ | _⟩ <;> rfl

theorem operand?_item
    (choice : Choice) :
    choice.item.operand? = none := by
  rcases choice with ⟨format, _ | _⟩ <;> rfl

theorem format?_item
    (choice : Choice) :
    choice.item.format? Format.taken? =
      some choice.format := by
  rcases choice with ⟨_ | _, _ | _⟩ <;> rfl

theorem halt?_item
    (command : Command)
    (choice : Choice) :
    choice.item.halt? Format.taken? command = none := by
  rcases choice with ⟨_ | _, _ | _⟩ <;> rfl

/- Choices are written one behind the other. -/
theorem flatMap_item
    (choices : List Choice) :
    (choices.map item).flatMap Item.arguments =
      choices.flatMap arguments := by
  simp only [List.flatMap_map, arguments_item]

/- They never end the reading. -/
theorem findSome?_item
    (command : Command)
    (choices : List Choice) :
    (choices.map item).findSome?
        (Item.halt? Format.taken? command) =
      none := by
  simp only [List.findSome?_eq_none_iff, List.forall_mem_map,
    halt?_item, implies_true]

/- All of them choose a format. -/
theorem filterMap_format?_item
    (choices : List Choice) :
    (choices.map item).filterMap
        (Item.format? Format.taken?) =
      choices.map Choice.format := by
  rw [List.filterMap_map, ← List.filterMap_eq_map]
  congr 1
  funext choice
  exact choice.format?_item

/- None of them is an operand. -/
theorem filterMap_operand?_item
    (choices : List Choice) :
    (choices.map item).filterMap Item.operand? = [] := by
  simp only [List.filterMap_eq_nil_iff, List.forall_mem_map,
    operand?_item, implies_true]

end Choice

end CommandLine

end Clearance

------------------------------------------------------------
-- Names Among Choices And Behind Them
------------------------------------------------------------

namespace Clearance

namespace CommandLine

/- A name that looks like an operand may stand anywhere. -/
theorem run_name_among_choices
    (name : Operand)
    (before after : List Choice) :
    run
        ("resolve" ::
          (before.flatMap Choice.arguments ++
            name.text :: after.flatMap Choice.arguments)) =
      .lookUp (Choice.last (before ++ after)) name.text := by
  let items :=
    before.map Choice.item ++
      .operand name :: after.map Choice.item
  have hArguments :
      items.flatMap Item.arguments =
        before.flatMap Choice.arguments ++
          name.text :: after.flatMap Choice.arguments := by
    simp only [items, List.flatMap_append,
      List.flatMap_cons, Choice.flatMap_item]
    rfl
  have hEnding :
      items.findSome?
          (Item.ending? Format.taken? .resolve) =
        none := by
    simp only [items, findSome?_ending?,
      List.findSome?_append, List.findSome?_cons,
      Choice.findSome?_item]
    rfl
  have hFormats :
      items.filterMap (Item.format? Format.taken?) =
        (before ++ after).map Choice.format := by
    rw [List.filterMap_append, List.filterMap_cons,
      Choice.filterMap_format?_item,
      Choice.filterMap_format?_item, List.map_append]
    rfl
  have hOperands :
      items.filterMap Item.operand? = [name.text] := by
    rw [List.filterMap_append, List.filterMap_cons,
      Choice.filterMap_operand?_item,
      Choice.filterMap_operand?_item]
    rfl
  rw [← hArguments]
  have hRun := run_items .resolve items
  rw [outcome, hEnding, hFormats, hOperands] at hRun
  exact hRun

/- Any name may stand behind the separator. -/
theorem run_name_behind_choices
    (name : String)
    (choices : List Choice) :
    run
        ("resolve" ::
          (choices.flatMap Choice.arguments ++
            [separator, name])) =
      .lookUp (Choice.last choices) name := by
  have hOperands :
      ∀ item ∈ choices.map Choice.item,
        item.operand? = none :=
    List.forall_mem_map.mpr fun choice _ =>
      choice.operand?_item
  have hEnds : Selection.initial.endsInName = false :=
    rfl
  have hTaken :=
    Selection.foldl_take_of_no_operands .resolve hOperands
      hEnds
  have hRead :=
    Selection.read_separated .resolve
      (choices.map Choice.item) [name]
  rw [Choice.flatMap_item, Choice.findSome?_item, hTaken,
    Choice.filterMap_format?_item] at hRead
  have hRequest := Request.read_command .resolve
    (choices.flatMap Choice.arguments ++ [separator, name])
  rw [hRead] at hRequest
  rw [run, show "resolve" = Command.resolve.word from rfl,
    hRequest]
  exact answer_resolve _ name

end CommandLine

end Clearance

------------------------------------------------------------
-- Agreement
------------------------------------------------------------

namespace Clearance

namespace CommandLine

/- A look-up succeeds for the names that are listed. -/
theorem status_lookUp_eq_zero_iff
    (format : Format)
    (name : String) :
    (Output.lookUp format name).status = 0 ↔
      name ∈ Helper.all.map Helper.name := by
  rw [← Helper.resolve_isOk_iff_mem]
  unfold Output.lookUp
  cases Helper.resolve name with
  | ok helper => simp
  | error failure => simp

/- Turning to a name fails as looking it up does. -/
theorem lookUp_of_withHelper
    {expectation : Expectation}
    {name : String}
    {failure : Failure}
    (hFailure :
      expectation.withHelper name = .error failure)
    (format : Format) :
    Output.lookUp format name =
      ⟨1, "", "Error: " ++ failure.message ++ "\n"⟩ := by
  unfold Expectation.withHelper at hFailure
  cases hResolve : Helper.resolve name with
  | ok helper =>
      rw [hResolve] at hFailure
      cases hFailure
  | error found =>
      rw [hResolve] at hFailure
      cases hFailure
      exact Output.lookUp_of_error hResolve format

/-
  Among options that choose a format, a name that looks like
  an operand is looked up; behind them and the separator, any
  name is. Both give the helper of the name in the format that
  is chosen last, or else the failure to know the name, and in
  the same words as the look-up itself. In words, a helper is
  its name and the expected actions in one line, and the
  denied ones in another; as an object, it has a field for
  each of these and for the two parts of the name. So the
  command line knows the names that are listed, and every
  expectation can be turned to these and fails to turn to
  others for the same reason.
-/
theorem look_up_anywhere
    (name : String)
    (before after : List Choice) :
    let written := fun choices : List Choice =>
      choices.flatMap Choice.arguments
    let format := Choice.last (before ++ after)
    let among :=
      run
        ("resolve" :: (written before ++ name :: written after))
    let behind :=
      run
        ("resolve" ::
          (written before ++ written after ++ ["--", name]))
    let listed := fun actions : List Action =>
      if actions = [] then "-" else ", ".intercalate actions
    let array := fun actions : List Action =>
      if actions = [] then
        "[]"
      else
        "[" ++ "\n" ++ "    " ++
          ("," ++ "\n" ++ "    ").intercalate
            (actions.map fun action =>
              "\x22" ++ action ++ "\x22") ++
          "\n" ++ "  ]"
    (Plain name → among = behind) ∧
      (∀ helper, Helper.resolve name = .ok helper →
        helper.name = name ∧
          (format = .text →
            behind =
              ⟨0,
                helper.name ++
                  String.ofList
                    (List.replicate
                      (17 - helper.name.length) ' ') ++
                  " actions: " ++ listed helper.expected ++
                  "\n" ++ "                  negated: " ++
                  listed helper.denied ++ "\n",
                ""⟩) ∧
          (format = .json →
            behind =
              ⟨0,
                "\x7b" ++ "\n" ++
                  "  \x22name\x22: \x22" ++ helper.name ++
                  "\x22," ++ "\n" ++
                  "  \x22prefix\x22: \x22" ++
                  helper.focus.word ++ "\x22," ++ "\n" ++
                  "  \x22behavior\x22: \x22" ++
                  helper.behavior.word ++ "\x22," ++ "\n" ++
                  "  \x22actions\x22: " ++
                  array helper.expected ++ "," ++ "\n" ++
                  "  \x22negated_actions\x22: " ++
                  array helper.denied ++ "\n" ++
                  "\x7d" ++ "\n",
                ""⟩)) ∧
      (∀ failure, Helper.resolve name = .error failure →
        failure = .unknownHelper name ∧
          behind =
            ⟨1, "", "Error: " ++ failure.message ++ "\n"⟩) ∧
      (behind.status = 0 ↔
        name ∈ Helper.all.map Helper.name) ∧
      ∀ expectation : Expectation,
        ((∃ turned,
          expectation.withHelper name = .ok turned) ↔
            name ∈ Helper.all.map Helper.name) ∧
          ∀ failure,
            expectation.withHelper name = .error failure →
              behind =
                ⟨1, "",
                  "Error: " ++ failure.message ++ "\n"⟩ := by
  intro written format among behind listed array
  have hBehind : behind = .lookUp format name := by
    have hRun :=
      run_name_behind_choices name (before ++ after)
    rw [List.flatMap_append] at hRun
    exact hRun
  refine ⟨?_, ?_, ?_, ?_, ?_⟩
  · intro hPlain
    rw [hBehind]
    exact run_name_among_choices ⟨name, hPlain⟩ before after
  · intro helper hResolve
    have hFound :
        behind = ⟨0, Listing.single format helper, ""⟩ := by
      rw [hBehind, Output.lookUp, hResolve]
    refine ⟨Helper.resolve_eq_ok_iff.mp hResolve, ?_, ?_⟩
    · intro hText
      rw [hFound, hText]
      rfl
    · intro hJson
      rw [hFound, hJson]
      rfl
  · intro failure hResolve
    refine ⟨Helper.failure_of_resolve hResolve, ?_⟩
    rw [hBehind, Output.lookUp_of_error hResolve]
  · rw [hBehind, status_lookUp_eq_zero_iff]
  · intro expectation
    constructor
    · rw [expectation.exists_withHelper_iff,
        ← Helper.resolve_isOk_iff_mem]
      simp only [Helper.resolve_eq_ok_iff]
    · intro failure hFailure
      rw [hBehind, lookUp_of_withHelper hFailure]

/- An option behind the separator is a name, if a strange one. -/
example :
    run ["resolve", "--format", "json", "--", "--help"] =
      ⟨1, "", "Error: Unknown helper method: '--help'\n"⟩ := by
  decide +kernel

end CommandLine

end Clearance
