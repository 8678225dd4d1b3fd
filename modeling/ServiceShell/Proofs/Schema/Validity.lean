import ServiceShell.Proofs.Document.Fields
import ServiceShell.Schema.Validation

/-!
# What the check of schemas accepts

The check gathers problems field by field.  This module states what a document without problems
looks like, so that a schema can be shown to pass without going through the check again.

Main results:

- Definition `Schema.IsSchema`: what the program that carries out commands relies on.
- Theorem `Schema.isValid_iff_isSchema`: the check accepts exactly such documents.
-/

namespace ServiceShell

namespace Schema

/-! ## Operations -/

/-- Whether an operation has what a schema needs. -/
structure IsOperation (operation : Document) : Prop where
  /-- It is an object. -/
  isObject_eq : operation.isObject = true
  /-- None of the fields is missing or empty. -/
  isTruthy_eq : ∀ field ∈ requiredOperationFields, (operation.getD field).isTruthy = true

theorem checkOperation_eq_nil_iff {index : Nat} {operation : Document} :
    checkOperation index operation = [] ↔ IsOperation operation := by
  unfold checkOperation
  split <;> rename_i hobject
  · rw [List.map_eq_nil_iff, List.filter_eq_nil_iff]
    constructor
    · intro h
      refine ⟨hobject, ?_⟩
      intro field hfield
      simpa using h field hfield
    · intro h field hfield
      simp [h.isTruthy_eq field hfield]
  · constructor
    · intro h
      cases h
    · intro h
      exact absurd h.isObject_eq hobject

/-- Operations have no problem exactly when each of them has what a schema needs. -/
theorem checkOperations_eq_nil_iff {index : Nat} {operations : List Document} :
    checkOperations index operations = [] ↔ ∀ d ∈ operations, IsOperation d := by
  induction operations generalizing index with
  | nil => simp [checkOperations]
  | cons operation rest ih =>
      rw [checkOperations, List.append_eq_nil_iff, checkOperation_eq_nil_iff, ih,
        List.forall_mem_cons]

/-! ## Schemas -/

/-- Whether a document has what the program that carries out commands relies on. -/
structure IsSchema (d : Document) : Prop where
  /-- It is an object. -/
  isObject_eq : d.isObject = true
  /-- No field is missing. -/
  isNull_eq : ∀ field ∈ requiredFields, (d.getD field).isNull = false
  /-- The service has a name. -/
  service : ∃ name, d.getD "service" = .text name ∧ name ≠ ""
  /-- The metadata are an object. -/
  metadata : (d.getD "metadata").isObject = true
  /-- It tells when it was made. -/
  generatedAt : ∃ text, d.getD "generated_at" = .text text ∧ isTime text = true
  /-- The operations are a list of operations. -/
  operations : ∃ items, d.getD "operations" = .list items ∧ ∀ item ∈ items, IsOperation item

theorem checkField_eq_nil_iff {d : Document} {isGood : Document → Bool} {problem : Problem}
    (hd : d.isNull = false) : checkField d isGood problem = [] ↔ isGood d = true := by
  unfold checkField
  rw [hd, Bool.false_or]
  split <;> rename_i hgood
  · simp [hgood]
  · simp [hgood]

theorem checkOperationList_eq_nil_iff {d : Document} (hd : d.isNull = false) :
    checkOperationList d = [] ↔ ∃ items, d = .list items ∧ ∀ item ∈ items, IsOperation item := by
  unfold checkOperationList
  split
  · cases hd
  · rename_i items
    rw [checkOperations_eq_nil_iff]
    constructor
    · intro h
      exact ⟨items, rfl, h⟩
    · rintro ⟨others, heq, h⟩
      cases heq
      exact h
  · rename_i hlist
    constructor
    · intro h
      cases h
    · rintro ⟨items, rfl, -⟩
      exact absurd rfl (hlist items)

/-- The check is silent about a document exactly when it accepts it. -/
theorem problemTexts_eq_nil_iff {d : Document} : problemTexts d = [] ↔ isValid d = true := by
  rw [problemTexts, List.map_eq_nil_iff, isValid, List.isEmpty_iff]

/-- The check accepts exactly the documents that have what is relied on. -/
theorem isValid_iff_isSchema {d : Document} : isValid d = true ↔ IsSchema d := by
  unfold isValid problems
  rw [List.isEmpty_iff]
  split <;> rename_i hobject
  · simp only [List.append_eq_nil_iff, List.map_eq_nil_iff, List.filter_eq_nil_iff]
    constructor
    · rintro ⟨⟨⟨⟨hnull, hservice⟩, hmetadata⟩, htime⟩, hoperations⟩
      have hpresent : ∀ field ∈ requiredFields, (d.getD field).isNull = false := by
        intro field hfield
        simpa using hnull field hfield
      rw [checkField_eq_nil_iff (hpresent _ (by decide)), Document.any_text?_iff] at hservice
      rw [checkField_eq_nil_iff (hpresent _ (by decide))] at hmetadata
      rw [checkField_eq_nil_iff (hpresent _ (by decide)), Document.any_text?_iff] at htime
      rw [checkOperationList_eq_nil_iff (hpresent _ (by decide))] at hoperations
      obtain ⟨name, hname, hne⟩ := hservice
      exact ⟨hobject, hpresent, ⟨name, hname, of_decide_eq_true hne⟩, hmetadata, htime,
        hoperations⟩
    · intro h
      obtain ⟨name, hname, hne⟩ := h.service
      refine ⟨⟨⟨⟨?_, ?_⟩, ?_⟩, ?_⟩, ?_⟩
      · intro field hfield
        simp [h.isNull_eq field hfield]
      · rw [checkField_eq_nil_iff (h.isNull_eq _ (by decide)), Document.any_text?_iff]
        exact ⟨name, hname, decide_eq_true hne⟩
      · rw [checkField_eq_nil_iff (h.isNull_eq _ (by decide))]
        exact h.metadata
      · rw [checkField_eq_nil_iff (h.isNull_eq _ (by decide)), Document.any_text?_iff]
        exact h.generatedAt
      · rw [checkOperationList_eq_nil_iff (h.isNull_eq _ (by decide))]
        exact h.operations
  · constructor
    · intro h
      cases h
    · intro h
      exact absurd h.isObject_eq hobject

end Schema

end ServiceShell
