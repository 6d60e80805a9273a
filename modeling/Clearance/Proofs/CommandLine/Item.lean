import Clearance.Proofs.CommandLine.Token

/-
  The arguments of a command as items.

  Arguments that belong together make an item: an operand, the
  format option with its value behind it or attached to it, or
  a request for help. An item is taken for the same tokens
  wherever it stands, and it never holds the argument that
  ends the options.

  Key definitions include:
    * `Operand`
    * `Item`
    * `Item.arguments`
    * `Item.tokens`

  Key theorems include:
    * `Item.ofArguments_flatMap`
    * `Item.ne_separator_of_mem_flatMap`
-/

------------------------------------------------------------
-- Items
------------------------------------------------------------

namespace Clearance

namespace CommandLine

/- A text that looks like an operand. -/
structure Operand where
  text : String
  plain : Plain text

/- Arguments of a command that belong together. -/
inductive Item where
  | operand (given : Operand)
  /- The format option, its value in the next argument. -/
  | spaced (value : Operand)
  /- The format option with its value in one argument. -/
  | attached (value : String)
  | help (short : Bool)

namespace Item

/- An item as it is written. -/
def arguments : Item → List String
  | .operand given => [given.text]
  | .spaced value => ["--format", value.text]
  | .attached value => ["--format=" ++ value]
  | .help true => ["-h"]
  | .help false => ["--help"]

/- What an item is taken for. -/
def tokens : Item → List (Token Setting)
  | .operand given => [.operand given.text]
  | .spaced value =>
    [.awaiting .format, .operand value.text]
  | .attached value => [.valued .format value]
  | .help _ => [.help]

/- The operand that an item is. -/
def operand? : Item → Option String
  | .operand given => some given.text
  | _ => none

/- The value that an item gives to the format option. -/
def value? : Item → Option String
  | .spaced value => some value.text
  | .attached value => some value
  | _ => none

theorem ofArguments_arguments
    (item : Item) :
    Token.ofArguments Setting.options item.arguments =
      .ok item.tokens := by
  cases item with
  | operand given =>
      rw [arguments, Token.ofArguments,
        Token.ofArgument_of_plain given.plain]
      rfl
  | spaced value =>
      simp only [arguments, Token.ofArguments,
        Token.ofArgument_format,
        Token.ofArgument_of_plain value.plain]
      rfl
  | attached value =>
      rw [arguments, Token.ofArguments,
        Token.ofArgument_attached]
      rfl
  | help short =>
      cases short <;> rfl

/- Items are taken for what each of them is taken for. -/
theorem ofArguments_flatMap
    (items : List Item) :
    Token.ofArguments Setting.options
        (items.flatMap arguments) =
      .ok (items.flatMap tokens) := by
  induction items with
  | nil =>
      rfl
  | cons item rest ih =>
      exact Token.ofArguments_append
        item.ofArguments_arguments ih

/- No item holds the argument that ends the options. -/
theorem separator_not_mem_arguments
    (item : Item) :
    separator ∉ item.arguments := by
  cases item with
  | operand given =>
      simpa [arguments] using given.plain.ne_separator.symm
  | spaced value =>
      simpa [arguments, separator] using
        value.plain.ne_separator.symm
  | attached value =>
      have hLetters :
          ("--format=" ++ value).toList ≠
            separator.toList := by
        simp [separator]
      rw [arguments, List.mem_singleton]
      intro hEq
      exact hLetters (congrArg String.toList hEq.symm)
  | help short =>
      cases short <;> decide

theorem ne_separator_of_mem_flatMap
    (items : List Item) :
    ∀ argument ∈ items.flatMap arguments,
      decide (argument ≠ separator) = true := by
  intro argument hMem
  rcases List.mem_flatMap.mp hMem with ⟨item, _, hItem⟩
  rw [decide_eq_true_iff]
  rintro rfl
  exact item.separator_not_mem_arguments hItem

end Item

end CommandLine

end Clearance
