import Clearance.Proofs.Text.Quoted
import Mathlib.Tactic.SplitIfs

/-
  Quoted text is printed on one line.

  A backslash, a letter and a hexadecimal digit are printable,
  so an escape puts printable characters in the place of any
  other. Whatever is quoted, there is then no control
  character, no line break and nothing invisible between the
  quotes.

  Key definitions include:
    * `Text.Printed`

  Key theorems include:
    * `Text.isPrintable_iff`
    * `Text.Quoted.isPrintable_of_mem_escape`
    * `Text.printed_quote`
-/

------------------------------------------------------------
-- Printable Characters
------------------------------------------------------------

namespace Clearance

namespace Text

/- The table starts with the delete character. -/
theorem covers_unprintable_of_lt
    {n : Nat}
    (hBelow : n < 0x7f) :
    covers unprintable n = false := by
  have hTable : ∀ range ∈ unprintable, 0x7f ≤ range.1 := by
    decide +kernel
  apply List.any_eq_false.mpr
  intro range hRange hCovers
  have hFirst := hTable range hRange
  simp only [Bool.and_eq_true, decide_eq_true_eq] at hCovers
  omega

/-
  A character is printable unless it comes before the space,
  is the delete character or is covered by the table.
-/
theorem isPrintable_iff
    (c : Char) :
    isPrintable c = true ↔
      0x20 ≤ c.toNat ∧
        c.toNat ≠ 0x7f ∧
        covers unprintable c.toNat = false := by
  unfold isPrintable
  by_cases hBelow : c.toNat < 0x7f
  · have hCovers := covers_unprintable_of_lt hBelow
    rw [if_pos hBelow, decide_eq_true_eq]
    constructor
    · intro hSpace
      exact ⟨hSpace, by omega, hCovers⟩
    · rintro ⟨hSpace, _, _⟩
      exact hSpace
  · rw [if_neg hBelow, Bool.not_eq_true']
    constructor
    · intro hCovers
      refine ⟨by omega, ?_, hCovers⟩
      intro hDelete
      rw [hDelete] at hCovers
      exact absurd hCovers (by decide)
    · rintro ⟨_, _, hCovers⟩
      exact hCovers

/- All characters of a text are printable. -/
def Printed (text : String) : Prop :=
  ∀ c ∈ text.toList, isPrintable c = true

instance
    (text : String) :
    Decidable (Printed text) :=
  List.decidableBAll _ _

theorem Printed.append
    {left right : String}
    (hLeft : Printed left)
    (hRight : Printed right) :
    Printed (left ++ right) := by
  unfold Printed
  rw [String.toList_append]
  exact List.forall_mem_append.mpr ⟨hLeft, hRight⟩

/- A printed text is not broken into lines. -/
theorem Printed.break_notMem
    {text : String}
    (hPrinted : Printed text) :
    '\n' ∉ text.toList := by
  intro hBreak
  exact absurd (hPrinted '\n' hBreak) (by decide)

end Text

end Clearance

------------------------------------------------------------
-- Quoted Text
------------------------------------------------------------

namespace Clearance

namespace Text

namespace Quoted

theorem isPrintable_hexDigit :
    ∀ n < 16, isPrintable (hexDigit n) = true := by
  decide

theorem isPrintable_of_mem_hexDigits
    (width n : Nat) :
    ∀ c ∈ hexDigits width n, isPrintable c = true := by
  induction width generalizing n with
  | zero =>
      exact List.forall_mem_nil _
  | succ width ih =>
      intro c hMem
      rw [hexDigits, List.mem_append,
        List.mem_singleton] at hMem
      rcases hMem with hFront | hLast
      · exact ih (n / 16) c hFront
      · rw [hLast]
        exact isPrintable_hexDigit _
          (Nat.mod_lt n (by decide))

/- A backslash and a letter are, with the like behind. -/
theorem isPrintable_of_mem_backslash
    {letter : Char}
    (hLetter : isPrintable letter = true)
    {rest : List Char}
    (hRest : ∀ c ∈ rest, isPrintable c = true)
    {c : Char}
    (hMem : c ∈ '\\' :: letter :: rest) :
    isPrintable c = true := by
  rcases List.mem_cons.mp hMem with rfl | hBehind
  · decide
  · rcases List.mem_cons.mp hBehind with rfl | hMore
    · exact hLetter
    · exact hRest c hMore

/- Whatever is escaped, the escape is printable. -/
theorem isPrintable_of_mem_escape
    {quote : Char}
    (hQuote : quote = '\x27' ∨ quote = '\x22')
    {escaped c : Char}
    (hMem : c ∈ escape quote escaped) :
    isPrintable c = true := by
  unfold escape at hMem
  split_ifs at hMem with hSelf hBreak hReturn hTab hPrintable
    hByte hPlane
  · have hEscaped : isPrintable escaped = true := by
      rcases hSelf with rfl | rfl
      · decide
      · rcases hQuote with rfl | rfl <;> decide
    exact isPrintable_of_mem_backslash hEscaped
      (List.forall_mem_nil _) hMem
  · exact isPrintable_of_mem_backslash (by decide)
      (List.forall_mem_nil _) hMem
  · exact isPrintable_of_mem_backslash (by decide)
      (List.forall_mem_nil _) hMem
  · exact isPrintable_of_mem_backslash (by decide)
      (List.forall_mem_nil _) hMem
  · rw [List.mem_singleton.mp hMem]
    exact hPrintable
  · exact isPrintable_of_mem_backslash (by decide)
      (isPrintable_of_mem_hexDigits _ _) hMem
  · exact isPrintable_of_mem_backslash (by decide)
      (isPrintable_of_mem_hexDigits _ _) hMem
  · exact isPrintable_of_mem_backslash (by decide)
      (isPrintable_of_mem_hexDigits _ _) hMem

/- So is the whole text, with its quotes. -/
theorem isPrintable_of_mem_encode
    {text : List Char}
    {c : Char}
    (hMem : c ∈ encode text) :
    isPrintable c = true := by
  have hQuote : isPrintable (delimiter text) = true := by
    rcases delimiter_cases text with hEq | hEq
    · rw [hEq]
      decide
    · rw [hEq]
      decide
  rw [encode, List.mem_cons, List.mem_append,
    List.mem_singleton] at hMem
  rcases hMem with rfl | hText | rfl
  · exact hQuote
  · rcases List.mem_flatMap.mp hText with
      ⟨escaped, _, hEscape⟩
    exact isPrintable_of_mem_escape (delimiter_cases text)
      hEscape
  · exact hQuote

end Quoted

theorem printed_quote
    (text : String) :
    Printed (quote text) := by
  intro c hMem
  rw [quote, String.toList_ofList] at hMem
  exact Quoted.isPrintable_of_mem_encode hMem

end Text

end Clearance
