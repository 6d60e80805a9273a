import Clearance.Text.Quoted
import Mathlib.Algebra.Group.Nat.Defs
import Mathlib.Data.Nat.Basic
import Mathlib.Logic.Function.Basic
import Mathlib.Tactic.SplitIfs

/-
  Quoted text is read back.

  Whatever text is quoted, and whatever stands behind it, the
  reader gives the text and what stands behind. So different
  texts are quoted differently.

  Key theorems include:
    * `Text.Quoted.read_hexDigits`
    * `Text.Quoted.read_escape`
    * `Text.Quoted.decode_encode`
    * `Text.quote_injective`
-/

------------------------------------------------------------
-- Hexadecimal Digits
------------------------------------------------------------

namespace Clearance

namespace Text

namespace Quoted

theorem hexValue_hexDigit :
    ∀ n < 16, hexValue (hexDigit n) = n := by
  decide

/- Digits in front of others are added to the value. -/
theorem read_digits
    (quote : Char)
    (width left value n : Nat)
    (rest : List Char) :
    read quote (.digits (width + (left + 1)) value)
        (hexDigits width n ++ rest) =
      read quote
        (.digits (left + 1)
          (16 ^ width * value + n % 16 ^ width)) rest := by
  induction width generalizing left n rest with
  | zero =>
      simp [hexDigits, Nat.mod_one]
  | succ width ih =>
      have hDigit :
          hexValue (hexDigit (n % 16)) = n % 16 :=
        hexValue_hexDigit _ (Nat.mod_lt n (by decide))
      have hValue :
          16 * (16 ^ width * value + n / 16 % 16 ^ width) +
              n % 16 =
            16 ^ (width + 1) * value +
              n % 16 ^ (width + 1) := by
        rw [Nat.pow_succ, Nat.mul_comm (16 ^ width) 16,
          Nat.mod_mul, Nat.mul_add, Nat.mul_assoc]
        omega
      have hWidth :
          width + 1 + (left + 1) =
            width + (left + 1 + 1) := by
        omega
      rw [hexDigits, List.append_assoc, hWidth, ih,
        List.singleton_append, read]
      simp only [hDigit, hValue]
      rw [if_neg (by omega)]
      rfl

/- Enough digits for a number are read as its character. -/
theorem read_hexDigits
    (quote : Char)
    {width n : Nat}
    (hBound : n < 16 ^ (width + 1))
    (rest : List Char) :
    read quote (.digits (width + 1) 0)
        (hexDigits (width + 1) n ++ rest) =
      (read quote .plain rest).map fun (text, behind) =>
        (Char.ofNat n :: text, behind) := by
  have hDigit :
      hexValue (hexDigit (n % 16)) = n % 16 :=
    hexValue_hexDigit _ (Nat.mod_lt n (by decide))
  have hFront : n / 16 < 16 ^ width := by
    rw [Nat.pow_succ] at hBound
    omega
  have hValue :
      16 * (16 ^ width * 0 + n / 16 % 16 ^ width) +
          n % 16 =
        n := by
    rw [Nat.mod_eq_of_lt hFront]
    omega
  rw [hexDigits, List.append_assoc]
  have hRead :=
    read_digits quote width 0 0 (n / 16)
      ([hexDigit (n % 16)] ++ rest)
  rw [Nat.zero_add] at hRead
  rw [hRead, List.singleton_append, read]
  simp only [hDigit, hValue]
  rfl

end Quoted

end Text

end Clearance

------------------------------------------------------------
-- Characters
------------------------------------------------------------

namespace Clearance

namespace Text

namespace Quoted

/- A text is delimited by a single or a double quote. -/
theorem delimiter_cases
    (text : List Char) :
    delimiter text = '\x27' ∨ delimiter text = '\x22' := by
  unfold delimiter
  split
  · exact Or.inr rfl
  · exact Or.inl rfl

variable {quote : Char}

/- A letter behind a backslash is read as what it names. -/
theorem read_letter
    (hQuote : quote ≠ '\\')
    {letter : Char}
    (hWidth : width letter = 0)
    (rest : List Char) :
    read quote .plain ('\\' :: letter :: rest) =
      (read quote .plain rest).map fun (text, behind) =>
        (named letter :: text, behind) := by
  rw [read, if_neg hQuote.symm, if_pos rfl, read,
    if_pos hWidth]

/- So is a code point behind a letter for its width. -/
theorem read_codePoint
    (hQuote : quote ≠ '\\')
    (letter : Char)
    (places : Nat)
    {n : Nat}
    (hWidth : width letter = places + 1)
    (hBound : n < 16 ^ (places + 1))
    (rest : List Char) :
    read quote .plain
        ('\\' :: letter ::
          (hexDigits (places + 1) n ++ rest)) =
      (read quote .plain rest).map fun (text, behind) =>
        (Char.ofNat n :: text, behind) := by
  have hLetter : width letter ≠ 0 := by
    omega
  rw [read, if_neg hQuote.symm, if_pos rfl, read,
    if_neg hLetter, hWidth, read_hexDigits quote hBound]

/- Every character is read back from its escape. -/
theorem read_escape
    (hQuote : quote = '\x27' ∨ quote = '\x22')
    (c : Char)
    (rest : List Char) :
    read quote .plain (escape quote c ++ rest) =
      (read quote .plain rest).map fun (text, behind) =>
        (c :: text, behind) := by
  have hBackslash : quote ≠ '\\' := by
    rcases hQuote with rfl | rfl <;> decide
  have hPlace : c.toNat < 16 ^ (7 + 1) :=
    c.val.toNat_lt
  unfold escape
  split_ifs with hSelf hBreak hReturn hTab hPrintable hByte
    hPlane
  · have hWidth : width c = 0 := by
      rcases hSelf with rfl | rfl
      · rfl
      · rcases hQuote with rfl | rfl <;> rfl
    have hNamed : named c = c := by
      rcases hSelf with rfl | rfl
      · rfl
      · rcases hQuote with rfl | rfl <;> rfl
    have hRead := read_letter hBackslash hWidth rest
    rw [hNamed] at hRead
    exact hRead
  · rw [hBreak]
    exact read_letter hBackslash rfl rest
  · rw [hReturn]
    exact read_letter hBackslash rfl rest
  · rw [hTab]
    exact read_letter hBackslash rfl rest
  · rw [List.singleton_append, read,
      if_neg fun h => hSelf (Or.inr h),
      if_neg fun h => hSelf (Or.inl h)]
  · have hRead :=
      read_codePoint hBackslash 'x' 1 rfl hByte rest
    rw [Char.ofNat_toNat] at hRead
    exact hRead
  · have hRead :=
      read_codePoint hBackslash 'u' 3 rfl hPlane rest
    rw [Char.ofNat_toNat] at hRead
    exact hRead
  · have hRead :=
      read_codePoint hBackslash 'U' 7 rfl hPlace rest
    rw [Char.ofNat_toNat] at hRead
    exact hRead

/- So is a text, up to the quote behind it. -/
theorem read_flatMap_escape
    (hQuote : quote = '\x27' ∨ quote = '\x22')
    (text behind : List Char) :
    read quote .plain
        (text.flatMap (escape quote) ++ quote :: behind) =
      some (text, behind) := by
  induction text with
  | nil =>
      rw [List.flatMap_nil, List.nil_append, read, if_pos rfl]
  | cons c rest ih =>
      rw [List.flatMap_cons, List.append_assoc,
        read_escape hQuote, ih]
      rfl

/- A quoted text is read back, whatever stands behind. -/
theorem decode_encode
    (text behind : List Char) :
    decode (encode text ++ behind) = some (text, behind) := by
  have hRead :=
    read_flatMap_escape (delimiter_cases text) text behind
  rw [encode, List.cons_append, List.append_assoc,
    List.singleton_append]
  exact hRead

end Quoted

/- Different texts are quoted differently. -/
theorem quote_injective : Function.Injective quote := by
  intro left right hQuote
  have hEncode :
      Quoted.encode left.toList =
        Quoted.encode right.toList :=
    String.ofList_injective hQuote
  have hLeft := Quoted.decode_encode left.toList []
  have hRight := Quoted.decode_encode right.toList []
  rw [hEncode, hRight] at hLeft
  apply String.toList_inj.mp
  exact (Prod.mk.inj (Option.some.inj hLeft)).1.symm

end Text

end Clearance
