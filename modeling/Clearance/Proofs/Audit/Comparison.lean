import Clearance.Proofs.Audit.Policy

/-
  Audits compared with one another.

  One privilege is within another if all of its actions are
  among the actions of the other, each on the same side. One
  policy favors a privilege more than another policy does if
  it grants no fewer of the expected actions and no more of
  the denied ones. What is permitted stays permitted within,
  and with more favor; and what is forbidden stays forbidden
  within, and with less.

  Key definitions include:
    * `Verdict.rank`
    * `Privilege.Within`
    * `Privilege.Favored`

  Key theorems include:
    * `Findings.rank_verdict_le`
    * `Privilege.permitted_of_within`
    * `Privilege.forbidden_of_within`
    * `Privilege.verdict_eq_of_within`
    * `Privilege.verdict_eq_mixed_of_mem`
    * `Audit.verdicts_compared`
-/

------------------------------------------------------------
-- The Order Of Verdicts
------------------------------------------------------------

namespace Clearance

/- The verdicts, from all opposite to all as expected. -/
def Verdict.rank : Verdict → Nat
  | .forbidden => 0
  | .mixed => 1
  | .permitted => 2

namespace Findings

variable {left right : Findings}

/- The two reductions determine the verdict. -/
theorem verdict_congr
    (hPermitted : left.permitted = right.permitted)
    (hForbidden : left.forbidden = right.forbidden) :
    left.verdict = right.verdict := by
  unfold verdict
  rw [hPermitted, hForbidden]

/- A verdict rises with what is permitted and forbidden. -/
theorem rank_verdict_le
    (hPermitted :
      left.permitted = true → right.permitted = true)
    (hForbidden :
      right.forbidden = true → left.forbidden = true) :
    left.verdict.rank ≤ right.verdict.rank := by
  cases hRight : right.verdict with
  | permitted =>
      cases left.verdict <;> decide
  | mixed =>
      cases hLeft : left.verdict with
      | permitted =>
          have hSome :=
            left.verdict_eq_permitted_iff.mp hLeft
          exact absurd (hPermitted hSome)
            (right.verdict_eq_mixed_iff.mp hRight).1
      | forbidden => decide
      | mixed => decide
  | forbidden =>
      rcases right.verdict_eq_forbidden_iff.mp hRight with
        ⟨hNot, hNone⟩
      have hLeft : left.verdict = .forbidden := by
        apply left.verdict_eq_forbidden_iff.mpr
        exact ⟨fun hSome => hNot (hPermitted hSome),
          hForbidden hNone⟩
      exact Nat.le_of_eq (congrArg Verdict.rank hLeft)

end Findings

end Clearance

------------------------------------------------------------
-- Privileges And Policies
------------------------------------------------------------

namespace Clearance

namespace Privilege

/- A privilege lists no action that another does not. -/
structure Within (narrow wide : Privilege) : Prop where
  role_eq : narrow.role = wide.role
  controller_eq : narrow.controller = wide.controller
  expected_subset : narrow.expected ⊆ wide.expected
  denied_subset : narrow.denied ⊆ wide.denied

/-
  Of the actions of a privilege, the second policy grants the
  expected ones that the first grants, and of the denied ones
  none but those.
-/
structure Favored
    (privilege : Privilege)
    (less more : Policy) : Prop where
  expected :
    ∀ action ∈ privilege.expected,
      privilege.rule less action = true →
        privilege.rule more action = true
  denied :
    ∀ action ∈ privilege.denied,
      privilege.rule more action = true →
        privilege.rule less action = true

/- A privilege is within itself. -/
theorem within_self
    (privilege : Privilege) :
    privilege.Within privilege where
  role_eq := rfl
  controller_eq := rfl
  expected_subset := List.Subset.refl _
  denied_subset := List.Subset.refl _

/- A policy favors a privilege as much as itself. -/
theorem favored_self
    (privilege : Privilege)
    (policy : Policy) :
    privilege.Favored policy policy where
  expected := fun _ _ hGranted => hGranted
  denied := fun _ _ hGranted => hGranted

/- Favor for one side is disfavor for the other. -/
theorem Favored.opposite
    {privilege : Privilege}
    {less more : Policy}
    (hFavored : privilege.Favored less more) :
    privilege.opposite.Favored more less where
  expected := hFavored.denied
  denied := hFavored.expected

variable {narrow wide : Privilege}
variable {policy policy' : Policy}

namespace Within

theorem opposite
    (hWithin : narrow.Within wide) :
    narrow.opposite.Within wide.opposite where
  role_eq := hWithin.role_eq
  controller_eq := hWithin.controller_eq
  expected_subset := hWithin.denied_subset
  denied_subset := hWithin.expected_subset

/- Both privileges lead to the same questions. -/
theorem question_eq
    (hWithin : narrow.Within wide)
    (action : Action) :
    narrow.question action = wide.question action := by
  unfold question
  rw [hWithin.role_eq, hWithin.controller_eq]

theorem rule_eq
    (hWithin : narrow.Within wide)
    (policy : Policy)
    (action : Action) :
    narrow.rule policy action = wide.rule policy action := by
  unfold rule
  rw [hWithin.question_eq]

/- No fault is to be found within. -/
theorem settled
    (hWithin : narrow.Within wide)
    (hSettled : wide.Settled policy) :
    narrow.Settled policy := by
  intro action hMem
  rw [hWithin.question_eq]
  apply hSettled
  rcases List.mem_append.mp hMem with hExpected | hDenied
  · exact List.mem_append_left _
      (hWithin.expected_subset hExpected)
  · exact List.mem_append_right _
      (hWithin.denied_subset hDenied)

end Within

/- What is permitted stays so within, and with more favor. -/
theorem permitted_of_within
    (hWithin : narrow.Within wide)
    (hFavored : narrow.Favored policy policy')
    (hPermitted : (wide.findings policy).permitted = true) :
    (narrow.findings policy').permitted = true := by
  rcases (Findings.permitted_ofRule_iff _ _ _).mp
      hPermitted with
    ⟨hExpected, hDenied⟩
  apply (Findings.permitted_ofRule_iff _ _ _).mpr
  constructor
  · intro action hMem
    apply hFavored.expected action hMem
    rw [hWithin.rule_eq]
    exact hExpected action (hWithin.expected_subset hMem)
  · intro action hMem
    by_contra hGranted
    have hGranted' :=
      hFavored.denied action hMem
        (eq_true_of_ne_false hGranted)
    rw [hWithin.rule_eq,
      hDenied action (hWithin.denied_subset hMem)]
      at hGranted'
    cases hGranted'

/- What is forbidden stays so within, and with less favor. -/
theorem forbidden_of_within
    (hWithin : narrow.Within wide)
    (hFavored : narrow.Favored policy policy')
    (hForbidden : (wide.findings policy').forbidden = true) :
    (narrow.findings policy).forbidden = true := by
  rw [← Findings.permitted_opposite,
    ← findings_opposite] at hForbidden ⊢
  exact permitted_of_within hWithin.opposite
    hFavored.opposite hForbidden

/- On the same actions, a policy leads to one verdict. -/
theorem verdict_eq_of_within
    (policy : Policy)
    (hWithin : narrow.Within wide)
    (hWithin' : wide.Within narrow) :
    (narrow.findings policy).verdict =
      (wide.findings policy).verdict := by
  have hNarrow := narrow.favored_self policy
  have hWide := wide.favored_self policy
  apply Findings.verdict_congr
  · apply Bool.eq_iff_iff.mpr
    exact ⟨permitted_of_within hWithin' hWide,
      permitted_of_within hWithin hNarrow⟩
  · apply Bool.eq_iff_iff.mpr
    exact ⟨forbidden_of_within hWithin' hWide,
      forbidden_of_within hWithin hNarrow⟩

/- What is expected and denied at once is never all right. -/
theorem verdict_eq_mixed_of_mem
    {privilege : Privilege}
    (policy : Policy)
    {action : Action}
    (hExpected : action ∈ privilege.expected)
    (hDenied : action ∈ privilege.denied) :
    (privilege.findings policy).verdict = .mixed := by
  apply (Findings.verdict_eq_mixed_iff _).mpr
  constructor
  · intro hPermitted
    rcases (Findings.permitted_ofRule_iff _ _ _).mp
        hPermitted with
      ⟨hYes, hNo⟩
    have hBoth :=
      (hYes action hExpected).symm.trans (hNo action hDenied)
    cases hBoth
  · intro hForbidden
    rcases (Findings.forbidden_ofRule_iff _ _ _).mp
        hForbidden with
      ⟨hNo, hYes⟩
    have hBoth :=
      (hYes action hDenied).symm.trans (hNo action hExpected)
    cases hBoth

end Privilege

end Clearance

------------------------------------------------------------
-- Runs
------------------------------------------------------------

namespace Clearance

namespace Audit

/- Without a fault, the answers are on what the policy says. -/
theorem answer_of_settled
    {σ : Type}
    {engine : Engine σ}
    {policy : Policy}
    (hFollows : engine.Follows policy)
    (threshold : Level)
    {audit : Audit}
    (hSettled : audit.privilege.Settled policy)
    (state : σ) :
    let after := (audit.run engine threshold state).2
    let findings := audit.privilege.findings policy
    (after.answer .permitted = .ok (.truth true) ↔
        findings.permitted = true) ∧
      (after.answer .forbidden = .ok (.truth true) ↔
        findings.forbidden = true) ∧
      after.answer .verdict =
        .ok (.verdict findings.verdict) := by
  intro after findings
  rcases answer_of_read
      (run_of_settled hFollows threshold audit state
        hSettled).2 with
    ⟨_, _, hPermitted, hForbidden, hVerdict⟩
  refine ⟨?_, ?_, hVerdict⟩
  · rw [hPermitted, Except.ok.injEq, Answer.truth.injEq]
  · rw [hForbidden, Except.ok.injEq, Answer.truth.injEq]

/-
  Two engines follow policies without a fault for an audit.
  For a narrower audit that the second policy favors, what
  was permitted by the first policy is permitted by the
  second, and what was forbidden by the second is forbidden
  by the first. It follows that the order of the actions and
  how often they are listed do not matter, that no verdict
  gets worse with more favor, and that the verdict is mixed
  as soon as an action is expected and denied at once.
-/
theorem verdicts_compared
    {σ τ : Type}
    {engine : Engine σ}
    {engine' : Engine τ}
    {policy policy' : Policy}
    (hFollows : engine.Follows policy)
    (hFollows' : engine'.Follows policy')
    {audit : Audit}
    (hSettled : audit.privilege.Settled policy)
    (hSettled' : audit.privilege.Settled policy')
    (threshold : Level)
    (state : σ)
    (state' : τ) :
    let after := fun audit : Audit =>
      (audit.run engine threshold state).2
    let after' := fun audit : Audit =>
      (audit.run engine' threshold state').2
    (∀ narrow : Audit,
      narrow.privilege.Within audit.privilege →
      narrow.privilege.Favored policy policy' →
        ((after audit).answer .permitted =
            .ok (.truth true) →
          (after' narrow).answer .permitted =
            .ok (.truth true)) ∧
          ((after' audit).answer .forbidden =
              .ok (.truth true) →
            (after narrow).answer .forbidden =
              .ok (.truth true))) ∧
      (∀ twin : Audit,
        twin.privilege.Within audit.privilege →
        audit.privilege.Within twin.privilege →
          ∃ verdict,
            (after audit).answer .verdict =
                .ok (.verdict verdict) ∧
              (after twin).answer .verdict =
                .ok (.verdict verdict)) ∧
      (audit.privilege.Favored policy policy' →
        ∃ verdict verdict',
          (after audit).answer .verdict =
              .ok (.verdict verdict) ∧
            (after' audit).answer .verdict =
              .ok (.verdict verdict') ∧
            verdict.rank ≤ verdict'.rank) ∧
      ∀ action ∈ audit.privilege.expected,
        action ∈ audit.privilege.denied →
          (after audit).answer .verdict =
            .ok (.verdict .mixed) := by
  intro after after'
  rcases answer_of_settled hFollows threshold hSettled
      state with
    ⟨hPermitted, _, hVerdict⟩
  rcases answer_of_settled hFollows' threshold hSettled'
      state' with
    ⟨_, hForbidden', hVerdict'⟩
  refine ⟨?_, ?_, ?_, ?_⟩
  · intro narrow hWithin hFavored
    have hNarrow :=
      answer_of_settled hFollows threshold
        (hWithin.settled hSettled) state
    have hNarrow' :=
      answer_of_settled hFollows' threshold
        (hWithin.settled hSettled') state'
    constructor
    · intro hTrue
      apply hNarrow'.1.mpr
      exact Privilege.permitted_of_within hWithin hFavored
        (hPermitted.mp hTrue)
    · intro hTrue
      apply hNarrow.2.1.mpr
      exact Privilege.forbidden_of_within hWithin hFavored
        (hForbidden'.mp hTrue)
  · intro twin hWithin hWithin'
    refine ⟨_, hVerdict, ?_⟩
    rw [← Privilege.verdict_eq_of_within policy hWithin
      hWithin']
    exact (answer_of_settled hFollows threshold
      (hWithin.settled hSettled) state).2.2
  · intro hFavored
    have hWithin := audit.privilege.within_self
    refine ⟨_, _, hVerdict, hVerdict', ?_⟩
    exact Findings.rank_verdict_le
      (Privilege.permitted_of_within hWithin hFavored)
      (Privilege.forbidden_of_within hWithin hFavored)
  · intro action hExpected hDenied
    rw [← Privilege.verdict_eq_mixed_of_mem policy hExpected
      hDenied]
    exact hVerdict

/-
  One engine lets everyone index, show and list, the other
  lets them index and list, and edit. What is permitted by
  the first one is permitted by the other as long as show
  is left out, however often index is expected.
-/
theorem verdicts_compared_of_readers :
    let engine :=
      (Rulebook.allow ["index", "show", "list"]).engine
    let engine' :=
      (Rulebook.allow ["index", "list", "edit"]).engine
    let wide : Audit :=
      .start
        ⟨"reader", ["index", "show", "index", "list"],
          ["edit", "update"], ⟨"Posts", "Posts"⟩⟩
    let narrow : Audit :=
      .start
        ⟨"reader", ["list", "index", "list", "index"],
          ["update", "update"], ⟨"Posts", "Posts"⟩⟩
    (wide.run engine .debug 0).2.answer .permitted =
        .ok (.truth true) ∧
      (narrow.run engine' .debug 5).2.answer .permitted =
        .ok (.truth true) := by
  intro engine engine' wide narrow
  have hFollows (actions : List Action) :
      (Rulebook.allow actions).engine.Follows
        fun question =>
          .ok (actions.contains question.action) :=
    Rulebook.follows fun _ _ => rfl
  have hSettled (actions : List Action) :
      wide.privilege.Settled fun question =>
        .ok (actions.contains question.action) :=
    fun _ _ => ⟨_, rfl⟩
  have hPermitted :
      (wide.run engine .debug 0).2.answer .permitted =
        .ok (.truth true) := by
    decide
  have hWithin : narrow.privilege.Within wide.privilege :=
    ⟨rfl, rfl, by decide, by decide⟩
  refine ⟨hPermitted, ?_⟩
  apply ((verdicts_compared (hFollows _) (hFollows _)
    (hSettled _) (hSettled _) .debug 0 5).1 narrow hWithin
    ?_).1 hPermitted
  exact ⟨by decide, by decide⟩

end Audit

end Clearance
