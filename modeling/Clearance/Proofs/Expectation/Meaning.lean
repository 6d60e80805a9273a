import Clearance.Proofs.Audit.Policy
import Clearance.Proofs.Expectation.Step
import Clearance.Proofs.Helper
import Mathlib.Data.Finset.Basic

/-
  What the name of a helper means.

  If an engine never raises a fault and says the same to the
  same question, then the verdict on the name of a helper is
  a matter of sets: of the actions that the behavior names,
  and of those among all actions that the engine grants.

  Key definitions include:
    * `Behavior.named`
    * `Helper.MetBy`
    * `Helper.OpposedBy`
    * `Verdict.Judges`
    * `Expectation.verdictOn`

  Key theorems include:
    * `Helper.permitted_iff_metBy`
    * `Helper.forbidden_iff_opposedBy`
    * `Helper.verdict_judges`
    * `Expectation.verdictOn_name`
    * `Expectation.verdict_by_name`
-/

------------------------------------------------------------
-- Sets Of Actions
------------------------------------------------------------

namespace Clearance

namespace Behavior

/- The set of the actions that a behavior stands for. -/
def named (behavior : Behavior) : Finset Action :=
  behavior.actions.toFinset

/- The actions among all actions that a rule grants. -/
def granted (rule : Action → Bool) : Finset Action :=
  manage.named.filter fun action => rule action

@[simp] theorem mem_named_iff
    {behavior : Behavior}
    {action : Action} :
    action ∈ behavior.named ↔ action ∈ behavior.actions :=
  List.mem_toFinset

@[simp] theorem mem_granted_iff
    {rule : Action → Bool}
    {action : Action} :
    action ∈ granted rule ↔
      action ∈ manage.named ∧ rule action = true :=
  Finset.mem_filter

/- What a behavior leaves out are all actions but its own. -/
theorem mem_others_iff
    {behavior : Behavior}
    {action : Action} :
    action ∈ behavior.others ↔
      action ∈ manage.named \ behavior.named := by
  simp [others]

/- Every behavior stands for some of all actions. -/
theorem named_subset_manage
    (behavior : Behavior) :
    behavior.named ⊆ manage.named := by
  cases behavior <;> decide

/- No two behaviors stand for the same actions. -/
theorem named_injective
    {left right : Behavior}
    (hNamed : left.named = right.named) :
    left = right := by
  revert hNamed
  cases left <;> cases right <;> decide

/- Nor do they leave out the same actions. -/
theorem manage_sdiff_named_injective
    {left right : Behavior}
    (hOthers :
      manage.named \ left.named =
        manage.named \ right.named) :
    left = right := by
  apply named_injective
  rw [← Finset.sdiff_sdiff_eq_self left.named_subset_manage,
    hOthers,
    Finset.sdiff_sdiff_eq_self right.named_subset_manage]

/-
  Exactly some of all actions are granted if these are, and
  the rest of all actions is not.
-/
theorem granted_eq_iff
    {rule : Action → Bool}
    {chosen : Finset Action}
    (hChosen : chosen ⊆ manage.named) :
    granted rule = chosen ↔
      (∀ action ∈ chosen, rule action = true) ∧
        ∀ action ∈ manage.named \ chosen,
          rule action = false := by
  constructor
  · intro hEq
    rw [← hEq]
    constructor
    · intro action hMem
      exact (mem_granted_iff.mp hMem).2
    · intro action hMem
      rcases Finset.mem_sdiff.mp hMem with ⟨hAll, hNot⟩
      by_contra hYes
      exact hNot
        (mem_granted_iff.mpr
          ⟨hAll, eq_true_of_ne_false hYes⟩)
  · rintro ⟨hYes, hNo⟩
    ext action
    constructor
    · intro hMem
      rcases mem_granted_iff.mp hMem with ⟨hAll, hRule⟩
      by_contra hNot
      rw [hNo action (Finset.mem_sdiff.mpr ⟨hAll, hNot⟩)]
        at hRule
      cases hRule
    · intro hMem
      exact mem_granted_iff.mpr
        ⟨hChosen hMem, hYes action hMem⟩

variable (behavior : Behavior)
variable (rule : Action → Bool)

theorem granted_eq_named_iff :
    granted rule = behavior.named ↔
      (∀ action ∈ behavior.actions, rule action = true) ∧
        ∀ action ∈ behavior.others, rule action = false := by
  rw [granted_eq_iff behavior.named_subset_manage]
  simp only [mem_named_iff, mem_others_iff]

theorem granted_eq_manage_sdiff_named_iff :
    granted rule = manage.named \ behavior.named ↔
      (∀ action ∈ behavior.others, rule action = true) ∧
        ∀ action ∈ behavior.actions,
          rule action = false := by
  rw [granted_eq_iff Finset.sdiff_subset,
    Finset.sdiff_sdiff_eq_self behavior.named_subset_manage]
  simp only [mem_named_iff, mem_others_iff]

theorem named_subset_granted_iff :
    behavior.named ⊆ granted rule ↔
      ∀ action ∈ behavior.actions, rule action = true := by
  constructor
  · intro hSubset action hMem
    exact (mem_granted_iff.mp
      (hSubset (mem_named_iff.mpr hMem))).2
  · intro hYes action hMem
    exact mem_granted_iff.mpr
      ⟨behavior.named_subset_manage hMem,
        hYes action (mem_named_iff.mp hMem)⟩

/- At least all actions are granted if just these are. -/
theorem manage_subset_granted_iff :
    manage.named ⊆ granted rule ↔
      granted rule = manage.named := by
  constructor
  · intro hSubset
    exact Finset.Subset.antisymm (Finset.filter_subset _ _)
      hSubset
  · intro hEq
    exact hEq.ge

theorem disjoint_named_granted_iff :
    Disjoint behavior.named (granted rule) ↔
      ∀ action ∈ behavior.actions, rule action = false := by
  rw [Finset.disjoint_left]
  constructor
  · intro hApart action hMem
    have hNamed := mem_named_iff.mpr hMem
    by_contra hYes
    exact hApart hNamed
      (mem_granted_iff.mpr
        ⟨behavior.named_subset_manage hNamed,
          eq_true_of_ne_false hYes⟩)
  · intro hNo action hMem hGranted
    have hYes := (mem_granted_iff.mp hGranted).2
    rw [hNo action (mem_named_iff.mp hMem)] at hYes
    cases hYes

end Behavior

end Clearance

------------------------------------------------------------
-- Helpers And Granted Actions
------------------------------------------------------------

namespace Clearance

namespace Helper

/-
  All is as a helper expects it: at least the actions of its
  behavior are granted, exactly these, or all but these.
-/
def MetBy
    (helper : Helper)
    (granted : Finset Action) : Prop :=
  match helper.focus with
  | .atLeast => helper.behavior.named ⊆ granted
  | .exactly => granted = helper.behavior.named
  | .allBut =>
    granted = Behavior.manage.named \ helper.behavior.named

/-
  All is opposite to what a helper expects: none of the
  actions of its behavior is granted, all but these, or
  exactly these.
-/
def OpposedBy
    (helper : Helper)
    (granted : Finset Action) : Prop :=
  match helper.focus with
  | .atLeast => Disjoint helper.behavior.named granted
  | .exactly =>
    granted = Behavior.manage.named \ helper.behavior.named
  | .allBut => granted = helper.behavior.named

instance
    (granted : Finset Action) :
    (helper : Helper) → Decidable (helper.MetBy granted)
  | ⟨.atLeast, behavior⟩ =>
    inferInstanceAs (Decidable (behavior.named ⊆ granted))
  | ⟨.exactly, behavior⟩ =>
    inferInstanceAs (Decidable (granted = behavior.named))
  | ⟨.allBut, behavior⟩ =>
    inferInstanceAs
      (Decidable
        (granted =
          Behavior.manage.named \ behavior.named))

instance
    (granted : Finset Action) :
    (helper : Helper) → Decidable (helper.OpposedBy granted)
  | ⟨.atLeast, behavior⟩ =>
    inferInstanceAs
      (Decidable (Disjoint behavior.named granted))
  | ⟨.exactly, behavior⟩ =>
    inferInstanceAs
      (Decidable
        (granted =
          Behavior.manage.named \ behavior.named))
  | ⟨.allBut, behavior⟩ =>
    inferInstanceAs (Decidable (granted = behavior.named))

end Helper

/- A verdict says which of the two is the case, if any. -/
structure Verdict.Judges
    (verdict : Verdict)
    (helper : Helper)
    (granted : Finset Action) : Prop where
  permitted_iff :
    verdict = .permitted ↔ helper.MetBy granted
  forbidden_iff :
    verdict = .forbidden ↔ helper.OpposedBy granted
  mixed_iff :
    verdict = .mixed ↔
      ¬ helper.MetBy granted ∧ ¬ helper.OpposedBy granted

/- There is one verdict on granted actions. -/
theorem Verdict.Judges.unique
    {left right : Verdict}
    {helper : Helper}
    {granted : Finset Action}
    (hLeft : left.Judges helper granted)
    (hRight : right.Judges helper granted) :
    left = right := by
  cases left with
  | permitted =>
      exact (hRight.permitted_iff.mpr
        (hLeft.permitted_iff.mp rfl)).symm
  | forbidden =>
      exact (hRight.forbidden_iff.mpr
        (hLeft.forbidden_iff.mp rfl)).symm
  | mixed =>
      exact (hRight.mixed_iff.mpr
        (hLeft.mixed_iff.mp rfl)).symm

namespace Helper

variable (helper : Helper)
variable (rule : Action → Bool)

/- The findings of a rule on the actions of a helper. -/
abbrev findings : Findings :=
  .ofRule rule helper.expected helper.denied

/- The findings permit what the granted actions meet. -/
theorem permitted_iff_metBy :
    (helper.findings rule).permitted = true ↔
      helper.MetBy (Behavior.granted rule) := by
  rcases helper with ⟨focus, behavior⟩
  rw [Findings.permitted_ofRule_iff]
  cases focus with
  | atLeast =>
      rw [MetBy, Behavior.named_subset_granted_iff]
      simp [expected, denied]
  | exactly =>
      exact (behavior.granted_eq_named_iff rule).symm
  | allBut =>
      exact (behavior.granted_eq_manage_sdiff_named_iff
        rule).symm

/- The findings forbid what the granted actions oppose. -/
theorem forbidden_iff_opposedBy :
    (helper.findings rule).forbidden = true ↔
      helper.OpposedBy (Behavior.granted rule) := by
  rcases helper with ⟨focus, behavior⟩
  rw [Findings.forbidden_ofRule_iff]
  cases focus with
  | atLeast =>
      rw [OpposedBy, Behavior.disjoint_named_granted_iff]
      simp [expected, denied]
  | exactly =>
      rw [and_comm]
      exact (behavior.granted_eq_manage_sdiff_named_iff
        rule).symm
  | allBut =>
      rw [and_comm]
      exact (behavior.granted_eq_named_iff rule).symm

/- The verdict on the findings judges the granted actions. -/
theorem verdict_judges :
    (helper.findings rule).verdict.Judges helper
      (Behavior.granted rule) := by
  have hApart :
      (helper.findings rule).forbidden = true →
        ¬ (helper.findings rule).permitted = true := by
    intro hForbidden hPermitted
    rcases Findings.nothing_of_permitted_of_forbidden
        hPermitted hForbidden with
      ⟨hResults, hNegated⟩
    apply helper.actions_ne_nil
    rw [List.append_eq_nil_iff]
    exact
      ⟨(Outcomes.entries_ofRule_eq_nil_iff _ _).mp hResults,
        (Outcomes.entries_ofRule_eq_nil_iff _ _).mp
          hNegated⟩
  refine ⟨?_, ?_, ?_⟩
  · rw [Findings.verdict_eq_permitted_iff,
      permitted_iff_metBy]
  · rw [Findings.verdict_eq_forbidden_iff,
      and_iff_right_of_imp hApart, forbidden_iff_opposedBy]
  · rw [Findings.verdict_eq_mixed_iff, permitted_iff_metBy,
      forbidden_iff_opposedBy]

end Helper

end Clearance

------------------------------------------------------------
-- Verdicts By Name
------------------------------------------------------------

namespace Clearance

/- The privilege for which a helper stands. -/
def Helper.privilege
    (helper : Helper)
    (role : Role)
    (controller : Controller) : Privilege where
  role := role
  expected := helper.expected
  denied := helper.denied
  controller := controller

namespace Expectation

variable {σ : Type}

/-
  The verdict on an expectation, once it is turned to the
  helper of a name.
-/
def verdictOn
    (engine : Engine σ)
    (threshold : Level)
    (expectation : Expectation)
    (name : String)
    (target : Target)
    (state : σ) : Except Failure Verdict :=
  (expectation.withHelper name).bind fun turned =>
    (turned.evaluate engine threshold target state).1.result

/- An expectation can be turned to each helper by name. -/
theorem withHelper_name
    (expectation : Expectation)
    (helper : Helper) :
    expectation.withHelper helper.name =
      .ok { expectation with intent := .helper helper } := by
  rw [withHelper, Helper.resolve_eq_ok_iff.mpr rfl]
  rfl

/- It can be turned to no other names. -/
theorem exists_withHelper_iff
    (expectation : Expectation)
    (name : String) :
    (∃ turned, expectation.withHelper name = .ok turned) ↔
      ∃ helper : Helper, helper.name = name := by
  constructor
  · rintro ⟨turned, hTurned⟩
    unfold withHelper at hTurned
    cases hResolve : Helper.resolve name with
    | ok helper =>
        exact ⟨helper, Helper.resolve_eq_ok_iff.mp hResolve⟩
    | error failure =>
        rw [hResolve] at hTurned
        cases hTurned
  · rintro ⟨helper, hName⟩
    rw [← hName]
    exact ⟨_, withHelper_name expectation helper⟩

/- The verdict on a name is that of a run for the helper. -/
theorem verdictOn_name
    (engine : Engine σ)
    (threshold : Level)
    (expectation : Expectation)
    (helper : Helper)
    (target : Target)
    (state : σ) :
    expectation.verdictOn engine threshold helper.name target
        state =
      ((Audit.start
        (helper.privilege expectation.role
          target.controller)).run engine threshold
            state).1.result.map Findings.verdict := by
  rw [verdictOn, withHelper_name]
  exact result_evaluate engine threshold _ target state

/- The verdict on a name is that of a rule on the helper. -/
theorem verdictOn_of_follows
    {engine : Engine σ}
    {permits : Question → Bool}
    (hFollows :
      engine.Follows fun question => .ok (permits question))
    (threshold : Level)
    (expectation : Expectation)
    (helper : Helper)
    (target : Target)
    (state : σ) :
    expectation.verdictOn engine threshold helper.name target
        state =
      .ok
        (helper.findings fun action =>
          permits
            ⟨expectation.role, action,
              target.controller⟩).verdict := by
  have hRun :=
    Audit.run_of_settled hFollows threshold
      (Audit.start
        (helper.privilege expectation.role
          target.controller))
      state fun action _ => ⟨_, rfl⟩
  rw [verdictOn_name, hRun.1]
  rfl

/-
  If an engine says the same to the same question and never
  raises a fault, then the names that are accepted are those
  of the helpers, and the verdict on each says how the granted
  actions compare with the actions of the behavior. So it does
  not matter what the engine says of any other action; no two
  helpers of the focus that all others be denied are met at
  once, nor are two of the focus that these be denied; and
  three of the helpers on all actions say the same.
-/
theorem verdict_by_name
    {engine : Engine σ}
    {permits : Question → Bool}
    (hFollows :
      engine.Follows fun question => .ok (permits question))
    (threshold : Level)
    (expectation : Expectation)
    (target : Target) :
    let verdict := fun name state =>
      expectation.verdictOn engine threshold name target state
    let grantedBy := fun permits : Question → Bool =>
      Behavior.granted fun action =>
        permits
          ⟨expectation.role, action, target.controller⟩
    (∀ name,
      (∃ turned, expectation.withHelper name = .ok turned) ↔
        ∃ helper : Helper, helper.name = name) ∧
      (∀ (helper : Helper) state,
        ∃ found,
          verdict helper.name state = .ok found ∧
            found.Judges helper (grantedBy permits)) ∧
      (∀ {τ : Type} (other : Engine τ) permits',
        (other.Follows fun question =>
          .ok (permits' question)) →
        grantedBy permits' = grantedBy permits →
        ∀ (helper : Helper) threshold' state state',
          expectation.verdictOn other threshold' helper.name
              target state' =
            verdict helper.name state) ∧
      (∀ focus : Focus,
        focus ≠ .atLeast →
        ∀ left right state state',
          verdict (Helper.name ⟨focus, left⟩) state =
            .ok .permitted →
          verdict (Helper.name ⟨focus, right⟩) state' =
            .ok .permitted →
          left = right) ∧
      (∀ state,
        (verdict "to_manage" state = .ok .permitted ↔
          verdict "only_to_manage" state = .ok .permitted) ∧
        (verdict "to_manage" state = .ok .permitted ↔
          verdict "except_to_manage" state =
            .ok .forbidden)) := by
  intro verdict grantedBy
  have hJudged (helper : Helper) (state : σ) :
      ∃ found,
        verdict helper.name state = .ok found ∧
          found.Judges helper (grantedBy permits) :=
    ⟨_, verdictOn_of_follows hFollows threshold expectation
      helper target state, helper.verdict_judges _⟩
  have hPermitted (helper : Helper) (state : σ) :
      verdict helper.name state = .ok .permitted ↔
        helper.MetBy (grantedBy permits) := by
    rcases hJudged helper state with
      ⟨found, hFound, hJudges⟩
    rw [hFound, Except.ok.injEq, hJudges.permitted_iff]
  have hForbidden (helper : Helper) (state : σ) :
      verdict helper.name state = .ok .forbidden ↔
        helper.OpposedBy (grantedBy permits) := by
    rcases hJudged helper state with
      ⟨found, hFound, hJudges⟩
    rw [hFound, Except.ok.injEq, hJudges.forbidden_iff]
  refine ⟨expectation.exists_withHelper_iff, hJudged, ?_, ?_,
    ?_⟩
  · intro τ other permits' hFollows' hGranted helper
      threshold' state state'
    rcases hJudged helper state with
      ⟨found, hFound, hJudges⟩
    rw [hFound, verdictOn_of_follows hFollows' threshold'
      expectation helper target state', Except.ok.injEq]
    have hOther :=
      helper.verdict_judges fun action =>
        permits'
          ⟨expectation.role, action, target.controller⟩
    rw [show Behavior.granted _ = grantedBy permits from
      hGranted] at hOther
    exact hOther.unique hJudges
  · intro focus hFocus left right state state' hLeft hRight
    rw [hPermitted] at hLeft hRight
    cases focus with
    | atLeast =>
        exact absurd rfl hFocus
    | exactly =>
        exact Behavior.named_injective
          (hLeft.symm.trans hRight)
    | allBut =>
        exact Behavior.manage_sdiff_named_injective
          (hLeft.symm.trans hRight)
  · intro state
    have hAtLeast := hPermitted ⟨.atLeast, .manage⟩ state
    have hExactly := hPermitted ⟨.exactly, .manage⟩ state
    have hAllBut := hForbidden ⟨.allBut, .manage⟩ state
    have hAll :
        Behavior.manage.named ⊆ grantedBy permits ↔
          grantedBy permits = Behavior.manage.named :=
      Behavior.manage_subset_granted_iff _
    exact
      ⟨hAtLeast.trans (hAll.trans hExactly.symm),
        hAtLeast.trans (hAll.trans hAllBut.symm)⟩

/-
  An engine that lets everyone index, show and archive: of
  all actions, exactly those of `read` are granted.
-/
theorem verdict_by_name_of_readers :
    let engine :=
      (Rulebook.allow ["index", "show", "archive"]).engine
    let verdict := fun name =>
      (fresh "reader").verdictOn engine .debug name
        (.itself ⟨"Posts", "Posts"⟩) 0
    verdict "only_to_read" = .ok .permitted ∧
      verdict "except_to_read" = .ok .forbidden ∧
      verdict "to_delete" = .ok .forbidden ∧
      verdict "to_manage" = .ok .mixed := by
  intro engine verdict
  have hFollows :
      engine.Follows fun question =>
        .ok (["index", "show", "archive"].contains
          question.action) :=
    Rulebook.follows fun _ _ => rfl
  have hMeaning :=
    (verdict_by_name hFollows .debug (fresh "reader")
      (.itself ⟨"Posts", "Posts"⟩)).2.1
  refine ⟨?_, ?_, ?_, ?_⟩
  · rcases hMeaning ⟨.exactly, .read⟩ 0 with
      ⟨found, hFound, hJudges⟩
    rw [hJudges.permitted_iff.mpr (by decide)] at hFound
    exact hFound
  · rcases hMeaning ⟨.allBut, .read⟩ 0 with
      ⟨found, hFound, hJudges⟩
    rw [hJudges.forbidden_iff.mpr (by decide)] at hFound
    exact hFound
  · rcases hMeaning ⟨.atLeast, .delete⟩ 0 with
      ⟨found, hFound, hJudges⟩
    rw [hJudges.forbidden_iff.mpr (by decide)] at hFound
    exact hFound
  · rcases hMeaning ⟨.atLeast, .manage⟩ 0 with
      ⟨found, hFound, hJudges⟩
    rw [hJudges.mixed_iff.mpr (by decide)] at hFound
    exact hFound

end Expectation

end Clearance
