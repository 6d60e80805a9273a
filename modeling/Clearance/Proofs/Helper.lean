import Clearance.Helper
import Mathlib.Data.List.Basic

/-
  The names of helpers.

  A text matches as a whole if it is the word for a focus, an
  underscore and some more on one line, and it does so in one
  way only, as the words for the foci differ in their first
  letters. So a text is read as a helper if it is the name of
  that helper, and as nothing if it is the name of none.

  Key definitions include:
    * `Focus.Splits`

  Key theorems include:
    * `Focus.append_injective`
    * `Focus.fullMatch?_eq_some_iff`
    * `Helper.ofName?_name`
    * `Helper.name_of_ofName?`
    * `Helper.resolve_eq_ok_iff`
    * `Helper.failure_of_resolve`
-/

------------------------------------------------------------
-- Words
------------------------------------------------------------

namespace Clearance

/- A behavior is found by its own word only. -/
theorem Behavior.word_of_ofWord?
    {word : List Char}
    {behavior : Behavior}
    (hWord : Behavior.ofWord? word = some behavior) :
    behavior.word.toList = word :=
  beq_iff_eq.mp
    (List.find?_some
      (p := fun behavior : Behavior =>
        behavior.word.toList == word)
      hWord)

end Clearance

------------------------------------------------------------
-- Splitting
------------------------------------------------------------

namespace Clearance

namespace Focus

theorem mem_all
    (focus : Focus) :
    focus ∈ all := by
  cases focus <;> decide

/- A text starts in the same way with one focus only. -/
theorem append_injective
    {left right : Focus}
    {rest rest' : String}
    (hEq :
      left.word ++ "_" ++ rest =
        right.word ++ "_" ++ rest') :
    left = right ∧ rest = rest' := by
  have hLetters := congrArg String.toList hEq
  -- The words differ in their first letters.
  have hFocus : left = right := by
    revert hLetters
    cases left <;> cases right <;> simp [word]
  subst hFocus
  refine ⟨rfl, String.toList_inj.mp ?_⟩
  simpa using hLetters

/-
  A text is the word for a focus, an underscore and some
  more, all on one line.
-/
structure Splits
    (focus : Focus)
    (name rest : String) : Prop where
  eq_append : name = focus.word ++ "_" ++ rest
  ne_empty : rest ≠ ""
  one_line : '\n' ∉ rest.toList

/- A focus is matched in front of what it splits off. -/
theorem behind?_eq_some_iff
    {focus : Focus}
    {name : String}
    {rest : List Char} :
    focus.behind? name.toList = some rest ↔
      focus.Splits name (String.ofList rest) := by
  have hFront :
      (focus.word.toList ++ ['_']).isPrefixOf?
            name.toList = some rest ↔
        name = focus.word ++ "_" ++ String.ofList rest := by
    rw [List.isPrefixOf?_eq_some_iff_append_eq,
      ← String.toList_inj]
    simp [eq_comm]
  rw [behind?, Option.filter_eq_some_iff, hFront,
    decide_eq_true_iff]
  constructor
  · rintro ⟨hName, hSome, hLine⟩
    exact ⟨hName, by simpa using hSome, by simpa using hLine⟩
  · rintro ⟨hName, hSome, hLine⟩
    exact ⟨hName, by simpa using hSome, by simpa using hLine⟩

/- A text matches as it splits, and in one way only. -/
theorem fullMatch?_eq_some_iff
    {focus : Focus}
    {name : String}
    {rest : List Char} :
    fullMatch? name.toList = some (focus, rest) ↔
      focus.Splits name (String.ofList rest) := by
  have hSplits
      {found : Focus}
      {left : List Char}
      (hMatch :
        fullMatch? name.toList = some (found, left)) :
      found.Splits name (String.ofList left) := by
    rcases List.exists_of_findSome?_eq_some hMatch with
      ⟨tried, _, hTried⟩
    rcases Option.map_eq_some_iff.mp hTried with
      ⟨behind, hBehind, hPair⟩
    cases hPair
    exact behind?_eq_some_iff.mp hBehind
  constructor
  · exact hSplits
  · intro hSplit
    have hSome : (fullMatch? name.toList).isSome := by
      rw [fullMatch?, List.findSome?_isSome_iff]
      refine ⟨focus, focus.mem_all, ?_⟩
      rw [behind?_eq_some_iff.mpr hSplit]
      rfl
    rcases Option.isSome_iff_exists.mp hSome with
      ⟨⟨found, left⟩, hMatch⟩
    have hBoth :=
      append_injective
        ((hSplits hMatch).eq_append.symm.trans
          hSplit.eq_append)
    rw [hMatch, hBoth.1, String.ofList_injective hBoth.2]

end Focus

end Clearance

------------------------------------------------------------
-- Names
------------------------------------------------------------

namespace Clearance

namespace Helper

/- Every helper is found by its name. -/
theorem ofName?_name
    (helper : Helper) :
    ofName? helper.name = some helper := by
  rcases helper with ⟨focus, behavior⟩
  cases focus <;> cases behavior <;> decide

/- What is found by a name has that name. -/
theorem name_of_ofName?
    {name : String}
    {helper : Helper}
    (hName : ofName? name = some helper) :
    helper.name = name := by
  rcases Option.bind_eq_some_iff.mp hName with
    ⟨⟨focus, rest⟩, hMatch, hWord⟩
  rcases Option.map_eq_some_iff.mp hWord with
    ⟨behavior, hBehavior, hHelper⟩
  cases hHelper
  rw [(Focus.fullMatch?_eq_some_iff.mp hMatch).eq_append,
    ← Behavior.word_of_ofWord? hBehavior,
    String.ofList_toList]
  rfl

/- The names that are known are those of the helpers. -/
theorem resolve_eq_ok_iff
    {name : String}
    {helper : Helper} :
    resolve name = .ok helper ↔ helper.name = name := by
  constructor
  · intro hResolve
    unfold resolve at hResolve
    split at hResolve
    · next found hName =>
      cases hResolve
      exact name_of_ofName? hName
    · cases hResolve
  · intro hName
    rw [resolve, ← hName, ofName?_name]

/- A name that is not known is all there is to report. -/
theorem failure_of_resolve
    {name : String}
    {failure : Failure}
    (hUnknown : resolve name = .error failure) :
    failure = .unknownHelper name := by
  unfold resolve at hUnknown
  split at hUnknown
  · cases hUnknown
  · cases hUnknown
    rfl

end Helper

end Clearance
