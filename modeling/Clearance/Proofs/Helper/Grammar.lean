import Clearance.Proofs.Helper
import Clearance.Proofs.Intent

/-
  The grammar of the names of helpers, over all texts.

  A name starts with the word for a focus and an underscore,
  and what stands behind is the word for a behavior. One word
  for a focus ends like another, but each starts with a letter
  of its own, so a text can be split in one way only. Words
  for a behavior hold no underscore.

  Key definitions include:
    * `Helper.spells`

  Key theorems include:
    * `Helper.resolve_append_eq_ok_iff`
    * `Helper.resolve_isOk_iff_splits`
    * `Helper.spells_of_resolve`
    * `Helper.resolve_grammar`
-/

------------------------------------------------------------
-- Words
------------------------------------------------------------

namespace Clearance

namespace Behavior

theorem mem_all
    (behavior : Behavior) :
    behavior ∈ all := by
  cases behavior <;> decide

/- The word for a behavior is one of small letters. -/
theorem isLower_of_mem_word
    (behavior : Behavior) :
    ∀ c ∈ behavior.word.toList, c.isLower = true := by
  rw [← List.all_eq_true]
  cases behavior <;> decide

theorem word_ne_empty
    (behavior : Behavior) :
    behavior.word ≠ "" := by
  cases behavior <;> decide

/- What stands behind in a name is never split again. -/
theorem word_ne_append
    (behavior : Behavior)
    (focus : Focus)
    (rest : String) :
    behavior.word ≠ focus.word ++ "_" ++ rest := by
  intro hWord
  have hUnderscore : '_' ∈ behavior.word.toList := by
    rw [hWord]
    simp
  exact absurd
    (behavior.isLower_of_mem_word '_' hUnderscore)
    (by decide)

end Behavior

end Clearance

------------------------------------------------------------
-- Names
------------------------------------------------------------

namespace Clearance

namespace Helper

theorem mem_all
    (helper : Helper) :
    helper ∈ all :=
  List.mem_flatMap.mpr
    ⟨helper.focus, helper.focus.mem_all,
      List.mem_map_of_mem helper.behavior.mem_all⟩

/- A name is known if it is listed. -/
theorem resolve_isOk_iff_mem
    (name : String) :
    (∃ helper, resolve name = .ok helper) ↔
      name ∈ all.map Helper.name := by
  simp only [resolve_eq_ok_iff, List.mem_map, mem_all,
    true_and]

/- What stands behind the focus has to be a behavior. -/
theorem resolve_append_eq_ok_iff
    {focus : Focus}
    {rest : String}
    {helper : Helper} :
    resolve (focus.word ++ "_" ++ rest) = .ok helper ↔
      helper.focus = focus ∧ helper.behavior.word = rest := by
  rw [resolve_eq_ok_iff]
  constructor
  · exact Focus.append_injective
  · rintro ⟨hFocus, hWord⟩
    rw [name, hFocus, hWord]

/- A name is known if what it splits into is a behavior. -/
theorem resolve_isOk_iff_splits
    (name : String) :
    (∃ helper, resolve name = .ok helper) ↔
      ∃ (focus : Focus) (behavior : Behavior),
        focus.Splits name behavior.word := by
  constructor
  · rintro ⟨helper, hResolve⟩
    refine ⟨helper.focus, helper.behavior,
      (resolve_eq_ok_iff.mp hResolve).symm,
      helper.behavior.word_ne_empty, ?_⟩
    intro hBreak
    exact absurd
      (helper.behavior.isLower_of_mem_word '\n' hBreak)
      (by decide)
  · rintro ⟨focus, behavior, hSplits⟩
    rw [hSplits.eq_append]
    exact ⟨⟨focus, behavior⟩,
      resolve_append_eq_ok_iff.mpr ⟨rfl, rfl⟩⟩

/- May this character stand in the name of a helper? -/
def spells (c : Char) : Bool :=
  c.isLower || c = '_'

/- The names that are known are spelled in small letters. -/
theorem spells_of_resolve
    {name : String}
    {helper : Helper}
    (hResolve : resolve name = .ok helper) :
    ∀ c ∈ name.toList, spells c = true := by
  have hFocus :
      ∀ c ∈ helper.focus.word.toList, spells c = true := by
    rw [← List.all_eq_true]
    cases helper.focus <;> decide
  have hUnderscore :
      ∀ c ∈ "_".toList, spells c = true := by
    rw [← List.all_eq_true]
    decide
  have hBehavior :
      ∀ c ∈ helper.behavior.word.toList,
        spells c = true := by
    intro c hMem
    rw [spells, helper.behavior.isLower_of_mem_word c hMem,
      Bool.true_or]
  rw [← resolve_eq_ok_iff.mp hResolve]
  simp only [Helper.name, String.toList_append,
    List.forall_mem_append]
  exact ⟨⟨hFocus, hUnderscore⟩, hBehavior⟩

/- A name that is known to nobody is refused as it is. -/
theorem resolve_eq_error
    {name : String}
    (hUnknown : ∀ helper, resolve name ≠ .ok helper) :
    resolve name = .error (.unknownHelper name) := by
  cases hResolve : resolve name with
  | ok helper => exact absurd hResolve (hUnknown helper)
  | error failure => rw [failure_of_resolve hResolve]

end Helper

end Clearance

------------------------------------------------------------
-- Actions
------------------------------------------------------------

namespace Clearance

namespace Helper

/- A helper draws its actions from all, in their order. -/
theorem actions_sublist
    (helper : Helper) :
    helper.expected.Sublist Behavior.manage.actions ∧
      helper.denied.Sublist Behavior.manage.actions := by
  have hActions :
      helper.behavior.actions.Sublist
        Behavior.manage.actions := by
    cases helper.behavior <;> decide
  have hOthers :
      helper.behavior.others.Sublist
        Behavior.manage.actions :=
    List.filter_sublist
  unfold expected denied
  cases helper.focus with
  | atLeast => exact ⟨hActions, List.nil_sublist _⟩
  | exactly => exact ⟨hActions, hOthers⟩
  | allBut => exact ⟨hOthers, hActions⟩

/- All but the first focus tell of every action. -/
theorem mem_expected_or_denied
    {helper : Helper}
    (hFocus : helper.focus ≠ .atLeast)
    {action : Action}
    (hAction : action ∈ Behavior.manage.actions) :
    action ∈ helper.expected ∨ action ∈ helper.denied := by
  have hSides :
      action ∈ helper.behavior.actions ∨
        action ∈ helper.behavior.others := by
    by_cases hMem : action ∈ helper.behavior.actions
    · exact Or.inl hMem
    · refine Or.inr (List.mem_filter.mpr ⟨hAction, ?_⟩)
      simpa using hMem
  unfold expected denied
  cases hCase : helper.focus with
  | atLeast => exact absurd hCase hFocus
  | exactly => exact hSides
  | allBut => exact hSides.symm

end Helper

end Clearance

------------------------------------------------------------
-- The Grammar
------------------------------------------------------------

namespace Clearance

namespace Helper

/-
  The names that are known are those that are listed, those
  that split into the word for a focus and, behind an
  underscore, the word for a behavior, and these two words
  are unique and tell the helper. Any other text is refused
  as it is: one with a space, a line break, a capital or any
  character but small letters and underscores, one with two
  words for a focus, and one with nothing behind the first.
  The helper of a name is so named. Its actions are drawn from
  all in their order, none is on both sides, and unless the
  focus is the first, none of all is left out.
-/
theorem resolve_grammar
    (name : String) :
    let known := ∃ helper, resolve name = .ok helper
    (known ↔ name ∈ all.map Helper.name) ∧
      (known ↔
        ∃ (focus : Focus) (behavior : Behavior),
          focus.Splits name behavior.word) ∧
      (∀ focus behavior,
        name = focus.word ++ "_" ++ behavior.word ↔
          resolve name = .ok ⟨focus, behavior⟩) ∧
      (¬ known →
        resolve name = .error (.unknownHelper name)) ∧
      ((∃ c ∈ name.toList, spells c = false) → ¬ known) ∧
      (∀ (focus inner : Focus) rest,
        name =
          focus.word ++ "_" ++ (inner.word ++ "_" ++ rest) →
        ¬ known) ∧
      (∀ focus : Focus, name = focus.word ++ "_" →
        ¬ known) ∧
      ∀ helper, resolve name = .ok helper →
        helper.name = name ∧
          helper.expected.Sublist
            Behavior.manage.actions ∧
          helper.denied.Sublist Behavior.manage.actions ∧
          helper.expected.Nodup ∧
          helper.denied.Nodup ∧
          helper.expected.Disjoint helper.denied ∧
          (helper.focus ≠ .atLeast →
            ∀ action ∈ Behavior.manage.actions,
              action ∈ helper.expected ∨
                action ∈ helper.denied) := by
  intro known
  have hBehind
      (focus : Focus)
      (rest : String)
      (hRest : ∀ behavior : Behavior, behavior.word ≠ rest)
      (hName : name = focus.word ++ "_" ++ rest) :
      ¬ known := by
    rintro ⟨helper, hResolve⟩
    rw [hName] at hResolve
    exact hRest helper.behavior
      (resolve_append_eq_ok_iff.mp hResolve).2
  refine ⟨resolve_isOk_iff_mem name,
    resolve_isOk_iff_splits name, ?_, ?_, ?_, ?_, ?_, ?_⟩
  · intro focus behavior
    rw [resolve_eq_ok_iff]
    exact eq_comm
  · intro hUnknown
    exact resolve_eq_error fun helper hResolve =>
      hUnknown ⟨helper, hResolve⟩
  · rintro ⟨c, hMem, hSpells⟩ ⟨helper, hResolve⟩
    rw [spells_of_resolve hResolve c hMem] at hSpells
    cases hSpells
  · intro focus inner rest
    exact hBehind focus _ fun behavior =>
      behavior.word_ne_append inner rest
  · intro focus hName
    refine hBehind focus "" Behavior.word_ne_empty ?_
    rw [hName, String.append_empty]
  · intro helper hResolve
    rcases List.nodup_append'.mp helper.nodup_actions with
      ⟨hExpected, hDenied, hDisjoint⟩
    exact ⟨resolve_eq_ok_iff.mp hResolve,
      helper.actions_sublist.1, helper.actions_sublist.2,
      hExpected, hDenied, hDisjoint,
      fun hFocus _ hAction =>
        mem_expected_or_denied hFocus hAction⟩

/- A line break behind a name is not passed over. -/
example :
    resolve "to_read\n" = .error (.unknownHelper "to_read\n") :=
  by decide

end Helper

end Clearance
