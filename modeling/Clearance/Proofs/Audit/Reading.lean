import Clearance.Audit.Call

/-
  Readings of an audit.

  All readings but that of the names say what the findings
  say. A reader that edits its copies of the tables edits
  what stands behind all tables that were there before, so
  that a reading always leaves the audit alone.

  Key theorems include:
    * `Tables.getElem?_editCopy`
    * `Tables.getElem?_editCopy_length`
    * `Audit.editCopies_eq`
    * `Audit.answer_of_read`
    * `Audit.perform_read`
-/

------------------------------------------------------------
-- Copies
------------------------------------------------------------

namespace Clearance

namespace Tables

variable {place other : Nat}
variable {tables : List Outcomes}

/- A copy changes no table that was there before. -/
theorem getElem?_copy
    (hOther : other < tables.length) :
    (copy place tables)[other]? = tables[other]? :=
  List.getElem?_append_left hOther

theorem length_le_length_copy
    (place : Nat)
    (tables : List Outcomes) :
    tables.length ≤ (copy place tables).length := by
  rw [copy, List.length_append]
  exact Nat.le_add_right _ _

/- An edit changes the table at one place only. -/
theorem getElem?_edit
    (hOther : other ≠ place)
    (action : Action)
    (outcome : Bool) :
    (edit place action outcome tables)[other]? =
      tables[other]? := by
  rw [edit]
  exact List.getElem?_modify_ne _ _ hOther.symm

/- An edit of a copy changes no table but the copy. -/
theorem getElem?_editCopy
    (hOther : other < tables.length)
    (action : Action)
    (outcome : Bool) :
    (editCopy place action outcome tables)[other]? =
      tables[other]? := by
  rw [editCopy, getElem?_edit (Nat.ne_of_lt hOther),
    getElem?_copy hOther]

/- The copy is the table as it was, with the outcome set. -/
theorem getElem?_editCopy_length
    (place : Nat)
    (action : Action)
    (outcome : Bool)
    (tables : List Outcomes) :
    (editCopy place action outcome tables)[tables.length]? =
      tables[place]?.map (·.record action outcome) := by
  rw [editCopy, edit, List.getElem?_modify_eq, copy,
    List.getElem?_append_right (Nat.le_refl _), Nat.sub_self]
  cases tables[place]? with
  | none => rfl
  | some table => rfl

theorem length_le_length_editCopy
    (place : Nat)
    (action : Action)
    (outcome : Bool)
    (tables : List Outcomes) :
    tables.length ≤
      (editCopy place action outcome tables).length := by
  rw [editCopy, edit, List.length_modify]
  exact length_le_length_copy place tables

end Tables

end Clearance

------------------------------------------------------------
-- Readings
------------------------------------------------------------

namespace Clearance

namespace Audit

/- Whoever edits copies of the tables leaves them alone. -/
theorem editCopies_eq
    (audit : Audit)
    (action : Action)
    (outcome : Bool) :
    audit.editCopies action outcome = audit := by
  unfold editCopies
  split
  · rfl
  · next findings hFindings =>
    have hPlace
        (place : Nat)
        (hPlace : place < 2) :
        (Tables.editCopy 1 action outcome
            (Tables.editCopy 0 action outcome
              [findings.results, findings.negated]))[place]? =
          [findings.results, findings.negated][place]? := by
      have hFirst :=
        Tables.length_le_length_editCopy 0 action outcome
          [findings.results, findings.negated]
      rw [Tables.getElem?_editCopy
          (Nat.lt_of_lt_of_le hPlace hFirst),
        Tables.getElem?_editCopy hPlace]
    rcases audit with ⟨privilege, _ | results, _ | negated⟩
    · cases hFindings
    · cases hFindings
    · cases hFindings
    · cases hFindings
      simp only [hPlace 0 (by decide), hPlace 1 (by decide)]
      rfl

/- So does any other reader. -/
theorem leave_eq
    (audit : Audit)
    (reading : Reading) :
    audit.leave reading = audit := by
  cases reading with
  | editCopies action outcome =>
      exact audit.editCopies_eq action outcome
  | _ => rfl

/- What is read is what the findings say. -/
theorem answer_of_read
    {audit : Audit}
    {findings : Findings}
    (hRead : audit.read = .ok findings) :
    audit.answer .results = .ok (.outcomes findings.results) ∧
      audit.answer .negatedResults =
        .ok (.outcomes findings.negated) ∧
      audit.answer .permitted =
        .ok (.truth findings.permitted) ∧
      audit.answer .forbidden =
        .ok (.truth findings.forbidden) ∧
      audit.answer .verdict =
        .ok (.verdict findings.verdict) := by
  simp [answer, hRead, Except.map]

/- Both tables are read as before when copies were edited. -/
theorem answer_editCopies_of_read
    {audit : Audit}
    {findings : Findings}
    (hRead : audit.read = .ok findings)
    (action : Action)
    (outcome : Bool) :
    audit.answer (.editCopies action outcome) =
      .ok (.findings findings) := by
  simp only [answer, editCopies_eq, hRead, Except.map]

variable {σ : Type}

/- A reading asks nothing and leaves everything alone. -/
theorem perform_read
    (engine : Engine σ)
    (threshold : Level)
    (audit : Audit)
    (reading : Reading)
    (state : σ) :
    audit.perform engine threshold (.read reading) state =
      (Run.quiet (audit.answer reading) state, audit) := by
  rw [perform, leave_eq]

end Audit

end Clearance
