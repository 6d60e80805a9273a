import Clearance.CommandLine
import Clearance.Proofs.CommandLine.Listing
import Clearance.Proofs.CommandLine.Manual
import Clearance.Proofs.CommandLine.Request
import Clearance.Proofs.Text.Quoted

/-
  What comes out of a command line.

  The outcome of a command is told from its items alone. The
  first request for help, or the first value that is refused
  as a format, decides. If there is none, then a name that is
  missing and arguments that are left over are refused, and
  else the answer is in the last of the formats.

  Key definitions include:
    * `Output.refused`
    * `Output.lookUp`
    * `Item.ending?`
    * `outcome`

  Key theorems include:
    * `answer_resolve`
    * `answer_behaviors`
    * `run_items`
-/

------------------------------------------------------------
-- Outcomes
------------------------------------------------------------

namespace Clearance

namespace CommandLine

namespace Output

/- Arguments are refused, below the usage concerned. -/
def refused
    (topic : Topic)
    (reason : String) : Output where
  status := 2
  out := ""
  err :=
    Text.lines
      [ topic.usage,
        topic.program ++ ": error: " ++ reason
      ]

/- A value is no format. -/
def badFormat
    (command : Command)
    (value : String) : Output :=
  refused (.command command)
    ("argument --format: invalid choice: " ++
      Text.quote value ++ " (choose from 'text', 'json')")

/- There is no name to look up. -/
def nameMissing : Output :=
  refused (.command .resolve)
    "the following arguments are required: name"

/- Arguments are left over. -/
def leftOver (arguments : List String) : Output :=
  refused .overview
    ("unrecognized arguments: " ++ " ".intercalate arguments)

/- A name is looked up. -/
def lookUp
    (format : Format)
    (name : String) : Output :=
  match Helper.resolve name with
  | .ok helper =>
    ⟨0, Listing.single format helper, ""⟩
  | .error failure =>
    ⟨1, "", "Error: " ++ failure.message ++ "\n"⟩

end Output

/- An unknown name is reported in a line of its own. -/
theorem Output.lookUp_of_error
    {name : String}
    {failure : Failure}
    (hResolve : Helper.resolve name = .error failure)
    (format : Format) :
    lookUp format name =
      ⟨1, "", "Error: " ++ failure.message ++ "\n"⟩ := by
  rw [lookUp, hResolve]

/- A request to look up a name is answered so. -/
theorem answer_resolve
    (format : Format)
    (name : String) :
    answer (.resolve format name) = .lookUp format name := by
  unfold Output.lookUp
  rw [answer]
  cases Helper.resolve name with
  | ok helper =>
      dsimp only
      rw [Listing.one_eq]
  | error failure =>
      dsimp only
      rw [Text.lines_singleton]

/- A request for every helper is answered by all of them. -/
theorem answer_behaviors
    (format : Format) :
    answer (.behaviors format) =
      ⟨0, Listing.whole format, ""⟩ := by
  rw [answer, Listing.every_eq]

/- What an item puts out at once, if it ends the reading. -/
def Item.ending?
    (reads : String → Option Format)
    (command : Command) : Item → Option Output
  | .help _ =>
    some ⟨0, (Topic.command command).page, ""⟩
  | item =>
    item.value?.bind fun value =>
      if (reads value).isSome then
        none
      else
        some (.badFormat command value)

/-
  The outcome of a command on items, given how the values of
  the format option are read.
-/
def outcome
    (reads : String → Option Format)
    (command : Command)
    (items : List Item) : Output :=
  match items.findSome? (Item.ending? reads command) with
  | some output => output
  | none =>
    let format :=
      (items.filterMap (Item.format? reads)).getLastD .text
    match command, items.filterMap Item.operand? with
    | .behaviors, [] =>
      ⟨0, Listing.whole format, ""⟩
    | .behaviors, surplus =>
      .leftOver surplus
    | .resolve, [] =>
      .nameMissing
    | .resolve, [name] =>
      .lookUp format name
    | .resolve, _ :: surplus =>
      .leftOver surplus

end CommandLine

end Clearance

------------------------------------------------------------
-- Running A Command
------------------------------------------------------------

namespace Clearance

namespace CommandLine

/- An item that ends the reading says so in the output. -/
theorem Item.ending?_eq
    (reads : String → Option Format)
    (command : Command)
    (item : Item) :
    item.ending? reads command =
      (item.halt? reads command).map excuse := by
  cases item with
  | operand given => rfl
  | spaced value =>
      simp only [ending?, halt?, refusal?, value?,
        Option.bind_some]
      split <;> rfl
  | attached value =>
      simp only [ending?, halt?, refusal?, value?,
        Option.bind_some]
      split <;> rfl
  | help short =>
      rw [ending?, ← Topic.help_eq]
      rfl

theorem findSome?_ending?
    (reads : String → Option Format)
    (command : Command)
    (items : List Item) :
    items.findSome? (Item.ending? reads command) =
      (items.findSome? (Item.halt? reads command)).map
        excuse := by
  rw [List.map_findSome?]
  congr 1
  funext item
  exact item.ending?_eq reads command

/- What a command puts out is told from its items. -/
theorem run_items
    (command : Command)
    (items : List Item) :
    run (command.word :: items.flatMap Item.arguments) =
      outcome Format.taken? command items := by
  rw [run, Request.read_command, Selection.read_items,
    outcome, findSome?_ending?]
  cases items.findSome?
      (Item.halt? Format.taken? command) with
  | some halt =>
      rfl
  | none =>
      have hFormat :=
        Selection.format_foldl_take command items .initial
      cases command with
      | behaviors =>
          have hWants :
              Selection.wantsName .behaviors .initial =
                false :=
            rfl
          have hSurplus :=
            (Selection.foldl_take_of_not_wantsName _ items
              hWants).2
          simp only [Request.ofSelection, Except.bind,
            hSurplus, hFormat, Option.map_none]
          cases items.filterMap Item.operand? with
          | nil => exact answer_behaviors _
          | cons name surplus => rfl
      | resolve =>
          have hWants :
              Selection.wantsName .resolve .initial = true :=
            rfl
          rcases Selection.foldl_take_of_wantsName _ items
            hWants with ⟨hName, hSurplus⟩
          simp only [Request.ofSelection, hName, hSurplus,
            hFormat, Option.map_none]
          cases items.filterMap Item.operand? with
          | nil => rfl
          | cons name surplus =>
              cases surplus with
              | nil => exact answer_resolve _ name
              | cons next others => rfl

end CommandLine

end Clearance

------------------------------------------------------------
-- Refusals Apart
------------------------------------------------------------

namespace Clearance

namespace CommandLine

/- The usage tells the topic, whatever stands behind it. -/
theorem Topic.eq_of_usage_append
    {left right : Topic}
    {rest rest' : String}
    (hEq : left.usage ++ rest = right.usage ++ rest') :
    left = right := by
  -- The usages are alike up to their letter at place 18.
  have hLetter (topic : Topic) (rest : String) :
      (topic.usage ++ rest).toList[18]? =
        topic.usage.toList[18]? := by
    rw [String.toList_append, List.getElem?_append_left]
    rcases topic with _ | ⟨_ | _⟩ <;> decide
  have hLetters :
      left.usage.toList[18]? = right.usage.toList[18]? := by
    rw [← hLetter left rest, hEq, hLetter right rest']
  revert hLetters
  rcases left with _ | ⟨_ | _⟩ <;>
    rcases right with _ | ⟨_ | _⟩ <;>
    decide

/- A refusal tells its topic and its reason. -/
theorem Output.refused_injective
    {left right : Topic}
    {reason reason' : String}
    (hEq : refused left reason = refused right reason') :
    left = right ∧ reason = reason' := by
  have hErr := congrArg Output.err hEq
  simp only [refused, Text.lines, String.append_assoc]
    at hErr
  have hTopic := Topic.eq_of_usage_append hErr
  subst hTopic
  simp only [String.append_right_inj,
    String.append_left_inj] at hErr
  exact ⟨rfl, hErr⟩

/- Nothing is refused when a name is looked up. -/
theorem Output.status_lookUp_ne
    (format : Format)
    (name : String) :
    (lookUp format name).status ≠ 2 := by
  unfold lookUp
  split <;> simp

/- A refusal of a value tells the value. -/
theorem Output.badFormat_injective
    {command : Command}
    {value value' : String}
    (hEq : badFormat command value = badFormat command value') :
    value = value' := by
  have hReason := (refused_injective hEq).2
  rw [String.append_left_inj, String.append_right_inj]
    at hReason
  exact Text.quote_injective hReason

end CommandLine

end Clearance

------------------------------------------------------------
-- The Separator As A Format
------------------------------------------------------------

namespace Clearance

namespace CommandLine

namespace Item

/- But for the separator itself, a value is read by its word. -/
theorem taken?_of_value?
    {item : Item}
    (hItem : item ≠ .attached separator)
    {value : String}
    (hValue : item.value? = some value) :
    Format.taken? value = Format.ofWord? value := by
  have hSeparator : value ≠ separator := by
    rintro rfl
    cases item with
    | operand given => cases hValue
    | spaced given =>
        exact given.plain.ne_separator
          (Option.some.inj hValue)
    | attached given =>
        exact hItem (congrArg attached
          (Option.some.inj hValue))
    | help short => cases hValue
  exact if_neg hSeparator

theorem format?_alike
    {item : Item}
    (hItem : item ≠ .attached separator) :
    item.format? Format.taken? =
      item.format? Format.ofWord? := by
  unfold format?
  cases hValue : item.value? with
  | none => rfl
  | some value => exact taken?_of_value? hItem hValue

theorem ending?_alike
    (command : Command)
    {item : Item}
    (hItem : item ≠ .attached separator) :
    item.ending? Format.taken? command =
      item.ending? Format.ofWord? command := by
  cases item with
  | operand given => rfl
  | spaced value =>
      simp only [ending?, value?, Option.bind_some,
        taken?_of_value? hItem rfl]
  | attached value =>
      simp only [ending?, value?, Option.bind_some,
        taken?_of_value? hItem rfl]
  | help short => rfl

/- What ends the reading is help or a refusal. -/
theorem eq_of_ending?
    {reads : String → Option Format}
    {command : Command}
    {item : Item}
    {output : Output}
    (hEnding : item.ending? reads command = some output) :
    output = ⟨0, (Topic.command command).page, ""⟩ ∨
      ∃ value, reads value = none ∧
        output = .badFormat command value := by
  have hRefused
      {value : String}
      (hValue :
        (if (reads value).isSome then
          none
        else
          some (Output.badFormat command value)) =
            some output) :
      reads value = none ∧
        output = .badFormat command value := by
    split at hValue
    · cases hValue
    · next hNone =>
      exact ⟨by simpa using hNone,
        (Option.some.inj hValue).symm⟩
  cases item with
  | operand given => cases hEnding
  | spaced value => exact Or.inr ⟨_, hRefused hEnding⟩
  | attached value => exact Or.inr ⟨_, hRefused hEnding⟩
  | help short =>
      exact Or.inl (Option.some.inj hEnding).symm

end Item

/- The first item that ends the reading. -/
def firstEnding?
    (reads : String → Option Format)
    (command : Command)
    (items : List Item) : Option Item :=
  items.find? fun item =>
    (item.ending? reads command).isSome

theorem findSome?_eq_of_firstEnding?
    {reads : String → Option Format}
    {command : Command}
    {items : List Item}
    {item : Item}
    (hFirst : firstEnding? reads command items = some item) :
    items.findSome? (Item.ending? reads command) =
      item.ending? reads command := by
  rcases List.find?_eq_some_iff_append.mp hFirst with
    ⟨hItem, before, behind, hItems, hBefore⟩
  rcases Option.isSome_iff_exists.mp hItem with
    ⟨output, hOutput⟩
  rw [hOutput]
  refine List.findSome?_eq_some_iff.mpr
    ⟨before, item, behind, hItems, hOutput, ?_⟩
  intro earlier hEarlier
  simpa using hBefore earlier hEarlier

/-
  If the separator as a format is not what ends the reading
  by the words for the formats, then the reading ends alike
  whether it is refused or not.
-/
theorem findSome?_ending?_alike
    {command : Command}
    {items : List Item}
    (hFirst :
      firstEnding? Format.ofWord? command items ≠
        some (.attached separator)) :
    items.findSome? (Item.ending? Format.taken? command) =
      items.findSome?
        (Item.ending? Format.ofWord? command) := by
  induction items with
  | nil => rfl
  | cons item rest ih =>
      have hItem : item ≠ .attached separator := by
        rintro rfl
        exact hFirst rfl
      rw [List.findSome?_cons, List.findSome?_cons,
        Item.ending?_alike command hItem]
      cases hEnding :
          item.ending? Format.ofWord? command with
      | some output => rfl
      | none =>
          apply ih
          simpa only [firstEnding?, List.find?_cons, hEnding,
            Option.isSome_none] using hFirst

/- So it does not matter then that it is not refused. -/
theorem outcome_alike
    {command : Command}
    {items : List Item}
    (hFirst :
      firstEnding? Format.ofWord? command items ≠
        some (.attached separator)) :
    outcome Format.taken? command items =
      outcome Format.ofWord? command items := by
  rw [outcome, outcome, findSome?_ending?_alike hFirst]
  cases hEnding : items.findSome?
      (Item.ending? Format.ofWord? command) with
  | some output => rfl
  | none =>
      have hItem
          (item : Item)
          (hMem : item ∈ items) :
          item ≠ .attached separator := by
        rintro rfl
        cases List.findSome?_eq_none_iff.mp hEnding _ hMem
      have hFormats :
          items.filterMap (Item.format? Format.taken?) =
            items.filterMap (Item.format? Format.ofWord?) :=
        List.filterMap_congr fun item hMem =>
          Item.format?_alike (hItem item hMem)
      rw [hFormats]

/- If it is, then something else comes out. -/
theorem outcome_apart
    {command : Command}
    {items : List Item}
    (hFirst :
      firstEnding? Format.ofWord? command items =
        some (.attached separator)) :
    outcome Format.taken? command items ≠
      outcome Format.ofWord? command items := by
  have hPromised :
      outcome Format.ofWord? command items =
        .badFormat command separator := by
    rw [outcome, findSome?_eq_of_firstEnding? hFirst]
    rfl
  rw [hPromised]
  intro hEq
  unfold outcome at hEq
  split at hEq
  · next output hOutput =>
    rcases List.exists_of_findSome?_eq_some hOutput with
      ⟨item, _, hEnding⟩
    rcases Item.eq_of_ending? hEnding with
      hHelp | ⟨value, hRefused, hValue⟩
    · rw [hHelp] at hEq
      have hStatus : 0 = 2 := congrArg Output.status hEq
      cases hStatus
    · rw [hValue] at hEq
      rw [Output.badFormat_injective hEq] at hRefused
      cases hRefused
  · split at hEq
    · have hStatus : 0 = 2 := congrArg Output.status hEq
      cases hStatus
    · have hTopic := (Output.refused_injective hEq).1
      cases hTopic
    · have hReason := (Output.refused_injective hEq).2
      exact absurd hReason (by decide)
    · exact absurd (congrArg Output.status hEq)
        (Output.status_lookUp_ne _ _)
    · have hTopic := (Output.refused_injective hEq).1
      cases hTopic

end CommandLine

end Clearance

------------------------------------------------------------
-- The Outcome
------------------------------------------------------------

namespace Clearance

namespace CommandLine

/-
  From left to right, the first request for help is granted
  and the first value that is no format is refused; then a
  missing name and what is left over are refused, and else
  the last of the formats holds. But the separator, attached
  as a format, is not refused: it chooses text. So what comes
  out is told by the words for the formats just in case that
  is not the first item to end the reading.
-/
theorem run_of_items
    (command : Command)
    (items : List Item) :
    let output :=
      run (command.word :: items.flatMap Item.arguments)
    output = outcome Format.taken? command items ∧
      (output = outcome Format.ofWord? command items ↔
        firstEnding? Format.ofWord? command items ≠
          some (.attached separator)) := by
  intro output
  have hOutput :
      output = outcome Format.taken? command items :=
    run_items command items
  refine ⟨hOutput, ?_, ?_⟩
  · intro hSame hFirst
    exact outcome_apart hFirst (hOutput.symm.trans hSame)
  · intro hFirst
    exact hOutput.trans (outcome_alike hFirst)

/- A separator as the format of a helper: text comes out. -/
theorem run_of_separator_format :
    let items : List Item :=
      [.operand ⟨"to_read", by decide⟩, .attached "--"]
    run ["resolve", "to_read", "--format=--"] =
        ⟨0,
          "to_read           actions: index, show\n" ++
            "                  negated: -\n",
          ""⟩ ∧
      outcome Format.ofWord? .resolve items =
        ⟨2, "",
          "usage: permitspec resolve [-h] " ++
            "[--format \x7btext,json\x7d] name\n" ++
            "permitspec resolve: error: " ++
            "argument --format: invalid choice: " ++
            "'--' (choose from 'text', 'json')\n"⟩ ∧
      run
          (Command.resolve.word ::
            items.flatMap Item.arguments) ≠
        outcome Format.ofWord? .resolve items := by
  intro items
  refine ⟨by decide +kernel, by decide +kernel, ?_⟩
  rw [run_items]
  exact outcome_apart rfl

end CommandLine

end Clearance
