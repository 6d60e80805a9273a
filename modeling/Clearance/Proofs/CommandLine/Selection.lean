import Clearance.Proofs.CommandLine.Item
import Mathlib.Data.List.TakeWhile

/-
  How the arguments of a command are read.

  Items are taken from left to right. The first request for
  help and the first value that is refused end the reading; if
  there is neither, then what is chosen can be read off the
  list: the last of the formats, the first of the operands if
  a name is wanted, and the other operands as left over.

  Key definitions include:
    * `Format.taken?`
    * `Item.halt?`
    * `Item.take`

  Key theorems include:
    * `Selection.scan_items`
    * `Selection.format_foldl_take`
    * `Selection.foldl_take_of_not_wantsName`
    * `Selection.foldl_take_of_wantsName`
    * `Selection.read_items`
    * `Selection.read_separated`
    * `Selection.name_mem_of_read`
-/

------------------------------------------------------------
-- Taking Items
------------------------------------------------------------

namespace Clearance

namespace CommandLine

/-
  The format that a value chooses. The argument that ends the
  options is not refused as a value, and chooses what holds
  if there is no choice.
-/
def Format.taken? (value : String) : Option Format :=
  if value = separator then
    some .initial
  else
    ofWord? value

namespace Item

variable (reads : String → Option Format)
variable (command : Command)

/- The format that an item chooses, given how to read it. -/
def format? (item : Item) : Option Format :=
  item.value?.bind reads

/- The refusal of a value, if it is not read as a format. -/
def refusal? (value : String) : Option Halt :=
  if (reads value).isSome then
    none
  else
    some (.misuse (.command command) (.unknownFormat value))

/- Why an item ends the reading. -/
def halt? : Item → Option Halt
  | .operand _ => none
  | .spaced value => refusal? reads command value.text
  | .attached value => refusal? reads command value
  | .help _ => some (.help (.command command))

/- What is chosen with one more item. -/
def take
    (selection : Selection)
    (item : Item) : Selection :=
  match item.operand?, item.format? Format.taken? with
  | some text, _ => selection.offer command text
  | none, some format => selection.choose format
  | none, none => selection

end Item

namespace Selection

variable {command : Command}

/- A value is refused or chooses a format. -/
theorem setFormat_eq
    (selection : Selection)
    (value : String) :
    selection.setFormat command value =
      match Format.taken? value with
      | some format => .ok (selection.choose format)
      | none =>
        .error
          (.misuse (.command command)
            (.unknownFormat value)) := by
  unfold setFormat Format.taken?
  by_cases hSeparator : value = separator
  · rw [if_pos hSeparator, if_pos hSeparator]
  · cases Format.ofWord? value with
    | none => rw [if_neg hSeparator, if_neg hSeparator]
    | some format =>
        rw [if_neg hSeparator, if_neg hSeparator]

/- One item in front: it ends the reading, or is taken. -/
theorem scan_tokens_append
    (item : Item)
    (rest : List (Token Setting))
    (selection : Selection) :
    scan command (item.tokens ++ rest) selection =
      match item.halt? Format.taken? command with
      | some halt => .error halt
      | none =>
        scan command rest (item.take command selection) := by
  cases item with
  | operand given =>
      rfl
  | spaced value =>
      simp only [Item.tokens, List.cons_append,
        List.nil_append, scan, setFormat_eq, Item.halt?,
        Item.refusal?, Item.take, Item.operand?,
        Item.format?, Item.value?, Option.bind_some]
      cases Format.taken? value.text <;> rfl
  | attached value =>
      simp only [Item.tokens, List.cons_append,
        List.nil_append, scan, setFormat_eq, Item.halt?,
        Item.refusal?, Item.take, Item.operand?,
        Item.format?, Item.value?, Option.bind_some]
      cases Format.taken? value <;> rfl
  | help short =>
      rfl

/- Items are taken up to the first that ends the reading. -/
theorem scan_items
    (items : List Item)
    (selection : Selection) :
    scan command (items.flatMap Item.tokens) selection =
      match
        items.findSome? (Item.halt? Format.taken? command)
      with
      | some halt => .error halt
      | none =>
        .ok (items.foldl (Item.take command) selection) := by
  induction items generalizing selection with
  | nil =>
      rfl
  | cons item rest ih =>
      rw [List.flatMap_cons, scan_tokens_append,
        List.findSome?_cons]
      cases item.halt? Format.taken? command with
      | some halt => rfl
      | none => exact ih (item.take command selection)

end Selection

end CommandLine

end Clearance

------------------------------------------------------------
-- What Is Chosen
------------------------------------------------------------

namespace Clearance

namespace CommandLine

namespace Selection

variable (command : Command)

@[simp] theorem format_offer
    (selection : Selection)
    (text : String) :
    (selection.offer command text).format =
      selection.format := by
  unfold offer leave
  split <;> rfl

theorem format_take
    (item : Item)
    (selection : Selection) :
    (item.take command selection).format =
      (item.format? Format.taken?).getD selection.format := by
  cases item with
  | operand given =>
      exact format_offer command selection given.text
  | spaced value =>
      simp only [Item.take, Item.operand?]
      cases Item.format? Format.taken? (.spaced value) <;> rfl
  | attached value =>
      simp only [Item.take, Item.operand?]
      cases Item.format? Format.taken? (.attached value) <;>
        rfl
  | help short => rfl

/- The last of the formats is chosen. -/
theorem format_foldl_take
    (items : List Item)
    (selection : Selection) :
    (items.foldl (Item.take command) selection).format =
      (items.filterMap
        (Item.format? Format.taken?)).getLastD
          selection.format := by
  induction items generalizing selection with
  | nil =>
      rfl
  | cons item rest ih =>
      rw [List.foldl_cons, ih, format_take,
        List.filterMap_cons]
      cases item.format? Format.taken? with
      | none => rfl
      | some format => rw [List.getLastD_cons]; rfl

/- An item that is no operand leaves the rest alone. -/
theorem take_of_no_operand
    {item : Item}
    (hOperand : item.operand? = none)
    (selection : Selection) :
    (item.take command selection).name = selection.name ∧
      (item.take command selection).surplus =
        selection.surplus := by
  simp only [Item.take, hOperand]
  cases item.format? Format.taken? with
  | none => exact ⟨rfl, rfl⟩
  | some format => exact ⟨rfl, rfl⟩

/- If no name is wanted, all operands are left over. -/
theorem foldl_take_of_not_wantsName
    (items : List Item)
    {selection : Selection}
    (hWants : selection.wantsName command = false) :
    (items.foldl (Item.take command) selection).name =
        selection.name ∧
      (items.foldl (Item.take command) selection).surplus =
        selection.surplus ++
          items.filterMap Item.operand? := by
  induction items generalizing selection with
  | nil =>
      exact ⟨rfl, (List.append_nil _).symm⟩
  | cons item rest ih =>
      rw [List.foldl_cons, List.filterMap_cons]
      cases hOperand : item.operand? with
      | none =>
          rcases take_of_no_operand command hOperand
            selection with ⟨hName, hSurplus⟩
          have hRest :
              (item.take command selection).wantsName
                command = false := by
            rw [wantsName, hName]
            exact hWants
          rw [← hName, ← hSurplus]
          exact ih hRest
      | some text =>
          have hTake :
              item.take command selection =
                selection.leave text := by
            simp only [Item.take, hOperand, offer, hWants]
            rfl
          have hRest :
              (selection.leave text).wantsName command =
                false :=
            hWants
          rw [hTake]
          rcases ih hRest with ⟨hName, hSurplus⟩
          refine ⟨hName, ?_⟩
          rw [hSurplus, leave, List.append_assoc]
          rfl

/- If a name is wanted, it is the first of the operands. -/
theorem foldl_take_of_wantsName
    (items : List Item)
    {selection : Selection}
    (hWants : selection.wantsName command = true) :
    (items.foldl (Item.take command) selection).name =
        (items.filterMap Item.operand?).head? ∧
      (items.foldl (Item.take command) selection).surplus =
        selection.surplus ++
          (items.filterMap Item.operand?).tail := by
  induction items generalizing selection with
  | nil =>
      have hName : selection.name = none :=
        Option.isNone_iff_eq_none.mp
          (Bool.and_eq_true_iff.mp hWants).2
      exact ⟨hName, (List.append_nil _).symm⟩
  | cons item rest ih =>
      rw [List.foldl_cons, List.filterMap_cons]
      cases hOperand : item.operand? with
      | none =>
          rcases take_of_no_operand command hOperand
            selection with ⟨hName, hSurplus⟩
          have hRest :
              (item.take command selection).wantsName
                command = true := by
            rw [wantsName, hName]
            exact hWants
          rw [← hSurplus]
          exact ih hRest
      | some text =>
          have hTake :
              item.take command selection =
                { selection with
                  name := some text
                  endsInName := true } := by
            simp only [Item.take, hOperand, offer, hWants]
            rfl
          have hRest :
              (item.take command selection).wantsName
                command = false := by
            rw [hTake, wantsName]
            exact Bool.and_false _
          rcases foldl_take_of_not_wantsName command rest
            hRest with
            ⟨hName, hSurplus⟩
          rw [hName, hSurplus, hTake]
          exact ⟨rfl, rfl⟩

/- An option that is taken changes the format alone. -/
theorem take_eq_of_no_operand
    {item : Item}
    (hOperand : item.operand? = none)
    {selection : Selection}
    (hEnds : selection.endsInName = false) :
    item.take command selection =
      { selection with
        format :=
          (item.format? Format.taken?).getD
            selection.format } := by
  simp only [Item.take, hOperand]
  cases item.format? Format.taken? with
  | none => rfl
  | some format => simp [choose, hEnds]

theorem foldl_take_of_no_operands
    {items : List Item}
    (hOperands : ∀ item ∈ items, item.operand? = none)
    {selection : Selection}
    (hEnds : selection.endsInName = false) :
    items.foldl (Item.take command) selection =
      { selection with
        format :=
          (items.filterMap
            (Item.format? Format.taken?)).getLastD
              selection.format } := by
  induction items generalizing selection with
  | nil =>
      rfl
  | cons item rest ih =>
      rcases List.forall_mem_cons.mp hOperands with
        ⟨hItem, hRest⟩
      rw [List.foldl_cons,
        take_eq_of_no_operand command hItem hEnds,
        List.filterMap_cons]
      cases item.format? Format.taken? with
      | none =>
          exact ih hRest hEnds
      | some format =>
          rw [List.getLastD_cons]
          exact ih hRest hEnds

end Selection

end CommandLine

end Clearance

------------------------------------------------------------
-- Reading
------------------------------------------------------------

namespace Clearance

namespace CommandLine

namespace Selection

variable (command : Command)

/- Without a separator, all arguments are items. -/
theorem read_items
    (items : List Item) :
    read command (items.flatMap Item.arguments) =
      match
        items.findSome? (Item.halt? Format.taken? command)
      with
      | some halt => .error halt
      | none =>
        .ok (items.foldl (Item.take command) initial) := by
  have hFront := Item.ne_separator_of_mem_flatMap items
  simp only [read]
  rw [List.takeWhile_eq_self_iff.mpr hFront,
    List.dropWhile_eq_nil_iff.mpr hFront,
    Item.ofArguments_flatMap]
  simp only [scan_items]
  cases items.findSome? (Item.halt? Format.taken? command) <;>
    rfl

/- What stands behind a separator is taken last. -/
theorem read_separated
    (items : List Item)
    (operands : List String) :
    read command
        (items.flatMap Item.arguments ++
          separator :: operands) =
      match
        items.findSome? (Item.halt? Format.taken? command)
      with
      | some halt => .error halt
      | none =>
        .ok
          ((items.foldl (Item.take command) initial).close
            command operands) := by
  have hFront := Item.ne_separator_of_mem_flatMap items
  have hTake :
      (separator :: operands).takeWhile (· ≠ separator) =
        [] :=
    List.takeWhile_cons_of_neg (by simp)
  have hDrop :
      (separator :: operands).dropWhile (· ≠ separator) =
        separator :: operands :=
    List.dropWhile_cons_of_neg (by simp)
  simp only [read]
  rw [List.takeWhile_append_of_pos hFront, hTake,
    List.append_nil, List.dropWhile_append_of_pos hFront,
    hDrop, Item.ofArguments_flatMap]
  simp only [scan_items]
  cases items.findSome? (Item.halt? Format.taken? command) <;>
    rfl

end Selection

end CommandLine

end Clearance

------------------------------------------------------------
-- Where A Name Comes From
------------------------------------------------------------

namespace Clearance

namespace CommandLine

namespace Selection

variable {command : Command}

/- An operand that is offered may become the name. -/
theorem name_of_offer
    {selection : Selection}
    {text name : String}
    (hName :
      (selection.offer command text).name = some name) :
    selection.name = some name ∨ text = name := by
  unfold offer at hName
  split at hName
  · exact Or.inr (Option.some.inj hName)
  · exact Or.inl hName

/- A value of the format option leaves the name alone. -/
theorem name_of_setFormat
    {selection chosen : Selection}
    {value : String}
    (hSet :
      selection.setFormat command value = .ok chosen) :
    chosen.name = selection.name := by
  rw [setFormat_eq] at hSet
  split at hSet
  · cases hSet
    rfl
  · cases hSet

/- A name that is scanned was an operand. -/
theorem name_of_scan
    {tokens : List (Token Setting)}
    {selection scanned : Selection}
    (hScan : scan command tokens selection = .ok scanned)
    {name : String}
    (hName : scanned.name = some name) :
    selection.name = some name ∨ .operand name ∈ tokens := by
  fun_induction scan command tokens selection with
  | case1 selection =>
      cases hScan
      exact Or.inl hName
  | case2 selection text rest ih =>
      rcases ih hScan with hOffer | hMem
      · rcases name_of_offer hOffer with hBefore | hText
        · exact Or.inl hBefore
        · rw [hText]
          exact Or.inr List.mem_cons_self
      · exact Or.inr (List.mem_cons_of_mem _ hMem)
  | case3 selection text rest ih =>
      exact (ih hScan).imp_right (List.mem_cons_of_mem _)
  | case4 => cases hScan
  | case5 => cases hScan
  | case6 value rest selection chosen hSet ih =>
      rw [← name_of_setFormat hSet]
      exact (ih hScan).imp_right (List.mem_cons_of_mem _)
  | case7 => cases hScan
  | case8 value rest selection chosen hSet ih =>
      rw [← name_of_setFormat hSet]
      exact (ih hScan).imp_right fun hMem =>
        List.mem_cons_of_mem _ (List.mem_cons_of_mem _ hMem)
  | case9 => cases hScan
  | case10 => cases hScan

/- Leaving arguments over does not touch the name. -/
theorem name_foldl_leave
    (operands : List String)
    (selection : Selection) :
    (operands.foldl leave selection).name =
      selection.name := by
  induction operands generalizing selection with
  | nil => rfl
  | cons operand rest ih => exact ih (selection.leave operand)

/- A name behind the separator was one of the operands. -/
theorem name_of_close
    {selection : Selection}
    {operands : List String}
    {name : String}
    (hName :
      (selection.close command operands).name = some name) :
    selection.name = some name ∨ name ∈ operands := by
  unfold close at hName
  split at hName
  · rw [name_foldl_leave] at hName
    exact Or.inl hName
  · split at hName
    · rw [name_foldl_leave] at hName
      rcases name_of_offer hName with hBefore | hText
      · exact Or.inl hBefore
      · rw [hText]
        exact Or.inr List.mem_cons_self
    · rw [name_foldl_leave] at hName
      exact Or.inl hName

/- A name that is read is one of the arguments. -/
theorem name_mem_of_read
    {arguments : List String}
    {selection : Selection}
    (hRead : read command arguments = .ok selection)
    {name : String}
    (hName : selection.name = some name) :
    name ∈ arguments := by
  simp only [read] at hRead
  split at hRead
  · cases hRead
  · next tokens hTokens =>
    cases hScan : scan command tokens initial with
    | error halt =>
        rw [hScan] at hRead
        cases hRead
    | ok scanned =>
        rw [hScan] at hRead
        injection hRead with hSelection
        have hScanned
            (hName : scanned.name = some name) :
            name ∈ arguments := by
          rcases name_of_scan hScan hName with
            hInitial | hMem
          · cases hInitial
          · exact (List.takeWhile_sublist _).subset
              (Token.operand_mem_of_ofArguments hTokens hMem)
        split at hSelection
        · rw [← hSelection] at hName
          exact hScanned hName
        · next operands hBehind =>
          rw [← hSelection] at hName
          rcases name_of_close hName with hName | hMem
          · exact hScanned hName
          · apply (List.dropWhile_sublist _).subset
            rw [hBehind]
            exact List.mem_cons_of_mem _ hMem

end Selection

end CommandLine

end Clearance
