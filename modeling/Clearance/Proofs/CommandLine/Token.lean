import Clearance.CommandLine.Request
import Mathlib.Data.List.Basic

/-
  What arguments are taken for.

  An argument that looks like an operand is one, whatever
  options there are, and an operand is always the argument
  that it was taken from. The options of a command are known
  by their full words, with a value behind them or attached.

  Key definitions include:
    * `Plain`

  Key theorems include:
    * `Token.ofArgument_of_plain`
    * `Token.operand_of_ofArgument`
    * `Token.ofArgument_attached`
    * `Token.ofArguments_append`
    * `Token.operand_mem_of_ofArguments`
-/

------------------------------------------------------------
-- Operands
------------------------------------------------------------

namespace Clearance

namespace CommandLine

/-
  A text that looks like an operand: no dash in front of it,
  a dash alone, or minus one.
-/
def Plain (text : String) : Prop :=
  text.toList.head? ≠ some '-' ∨ text = "-" ∨ text = "-1"

instance (text : String) : Decidable (Plain text) :=
  inferInstanceAs (Decidable (_ ∨ _))

/- The argument that ends the options does not look so. -/
theorem Plain.ne_separator
    {text : String}
    (hPlain : Plain text) :
    text ≠ separator := by
  rintro rfl
  exact absurd hPlain (by decide)

namespace Token

variable {α : Type}
variable {options : List (String × α)}

/- What looks like an operand is one. -/
theorem ofArgument_of_plain
    {text : String}
    (hPlain : Plain text) :
    ofArgument options text = .ok (.operand text) := by
  rcases hPlain with hFront | rfl | rfl
  · unfold ofArgument
    split
    · next first second rest hLetters =>
      have hFirst : first ≠ '-' := by
        intro hDash
        rw [hLetters, hDash] at hFront
        exact hFront rfl
      rw [if_pos hFirst]
    · rfl
  · rfl
  · rfl

/- Letters behind a short option are no operand. -/
theorem bundle_ne_operand
    (letters : List Char)
    (text : String) :
    (bundle letters : Token α) ≠ .operand text := by
  induction letters with
  | nil =>
      rw [bundle]
      exact nofun
  | cons c rest ih =>
      rw [bundle]
      split
      · exact ih
      · exact nofun

theorem shortHelp_ne_operand
    (letters : List Char)
    (text : String) :
    (shortHelp letters : Token α) ≠ .operand text := by
  unfold shortHelp
  split
  · exact nofun
  · exact bundle_ne_operand _ text
  · exact bundle_ne_operand _ text

/- Only itself can be the operand of an unknown argument. -/
theorem operand_of_unmatched
    {argument text : String}
    (hOperand :
      (unmatched argument : Token α) = .operand text) :
    text = argument := by
  unfold unmatched at hOperand
  split at hOperand
  · injection hOperand with hText
    exact hText.symm
  · cases hOperand

/- Nor can any other be one of a long option. -/
theorem operand_of_ofLong
    {argument text : String}
    (hOperand :
      ofLong options argument = .ok (.operand text)) :
    text = argument := by
  have hOption
      (option : Option α)
      (attached : Option String) :
      ofOption option attached ≠ .operand text := by
    cases option <;> cases attached <;> exact nofun
  simp only [ofLong] at hOperand
  split at hOperand
  · injection hOperand with hToken
    exact operand_of_unmatched hToken
  · injection hOperand with hToken
    exact absurd hToken (hOption _ _)
  · cases hOperand

/- An operand is the argument that is taken for it. -/
theorem operand_of_ofArgument
    {argument text : String}
    (hOperand :
      ofArgument options argument = .ok (.operand text)) :
    text = argument := by
  unfold ofArgument at hOperand
  split at hOperand
  · next first second rest hLetters =>
    split at hOperand
    · cases hOperand
      rfl
    · split at hOperand
      · exact operand_of_ofLong hOperand
      · split at hOperand
        · injection hOperand with hToken
          exact absurd hToken (shortHelp_ne_operand rest text)
        · injection hOperand with hToken
          exact operand_of_unmatched hToken
  · cases hOperand
    rfl

end Token

end CommandLine

end Clearance

------------------------------------------------------------
-- Options
------------------------------------------------------------

namespace Clearance

namespace CommandLine

namespace Token

/- The format option waits for the argument behind it. -/
theorem ofArgument_format :
    ofArgument Setting.options "--format" =
      .ok (.awaiting .format) :=
  rfl

/- Or it has its value behind an equals sign. -/
theorem ofArgument_attached
    (value : String) :
    ofArgument Setting.options ("--format=" ++ value) =
      .ok (.valued .format value) := by
  have hLetters :
      ("--format=" ++ value).toList =
        '-' :: '-' :: ("format=".toList ++ value.toList) :=
    String.toList_append
  have hStem :
      stem ("--format=" ++ value).toList =
        "--format".toList := by
    rw [hLetters]
    rfl
  have hAttached :
      attached? ("--format=" ++ value).toList = some value := by
    rw [hLetters]
    simp [attached?]
  have hLong :
      ofLong Setting.options ("--format=" ++ value) =
        .ok (.valued .format value) := by
    rw [ofLong, hStem, hAttached]
    rfl
  rw [ofArgument, hLetters]
  exact hLong

end Token

end CommandLine

end Clearance

------------------------------------------------------------
-- Several Arguments
------------------------------------------------------------

namespace Clearance

namespace CommandLine

namespace Token

variable {α : Type}
variable {options : List (String × α)}

/- One argument after others is taken by itself. -/
theorem ofArguments_append
    {left right : List String}
    {tokens tokens' : List (Token α)}
    (hLeft : ofArguments options left = .ok tokens)
    (hRight : ofArguments options right = .ok tokens') :
    ofArguments options (left ++ right) =
      .ok (tokens ++ tokens') := by
  induction left generalizing tokens with
  | nil =>
      cases hLeft
      exact hRight
  | cons argument rest ih =>
      simp only [List.cons_append, ofArguments] at hLeft ⊢
      cases hArgument : ofArgument options argument with
      | error complaint =>
          rw [hArgument] at hLeft
          cases hLeft
      | ok token =>
          simp only [hArgument] at hLeft ⊢
          cases hRest : ofArguments options rest with
          | error complaint =>
              rw [hRest] at hLeft
              cases hLeft
          | ok others =>
              rw [hRest] at hLeft
              cases hLeft
              rw [ih hRest]
              rfl

/- An operand is one of the arguments. -/
theorem operand_mem_of_ofArguments
    {arguments : List String}
    {tokens : List (Token α)}
    (hTokens : ofArguments options arguments = .ok tokens)
    {text : String}
    (hMem : .operand text ∈ tokens) :
    text ∈ arguments := by
  induction arguments generalizing tokens with
  | nil =>
      cases hTokens
      cases hMem
  | cons argument rest ih =>
      unfold ofArguments at hTokens
      split at hTokens
      · cases hTokens
      · next token hToken =>
        cases hRest : ofArguments options rest with
        | error complaint =>
            rw [hRest] at hTokens
            cases hTokens
        | ok others =>
            rw [hRest] at hTokens
            cases hTokens
            rcases List.mem_cons.mp hMem with hHead | hLater
            · rw [← hHead] at hToken
              rw [operand_of_ofArgument hToken]
              exact List.mem_cons_self
            · exact List.mem_cons_of_mem argument
                (ih hRest hLater)

end Token

end CommandLine

end Clearance
