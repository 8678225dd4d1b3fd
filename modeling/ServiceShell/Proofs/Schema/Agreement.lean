import Mathlib.Data.List.Forall2
import ServiceShell.Proofs.Schema.Compiled
import ServiceShell.Proofs.Signature.Batch
import ServiceShell.Proofs.Text.Digits

/-!
# Schemas and signatures of one model

A model is compiled twice: to a schema, and to the signatures of commands. The program that carries
out a command finds its operation in the schema, so the two have to tell the same of each operation.
When both are made, they do.  Either can be made where the other cannot.  Only the signatures
summarize documentation, so they fail when that of some operation cannot be read.  The schema always
spells the metadata, and the signatures only when the service is not named, so the schema alone
fails when the service is named and the metadata hold an integer of too many digits.

Main results:

- Structure `OperationRecord.Describes`: what an operation of a schema and a signature have in
  common.
- Theorem `Document.isOverlong_iff`: which documents cannot be spelled.
- Theorem `Signature.ofModelIn_eq_ok_iff_operations`: the signatures of a model are those of its
  operations, which are what a schema is made of.
- Theorem `Schema.operations_describe_signatures`: when the schema and when the signatures of a
  model can be made, and that its operations and they stand side by side.
-/

namespace ServiceShell

/-! ## Operations and their signatures -/

/-- Whether an integer occurs in a document. -/
inductive Document.HoldsInteger (n : Int) : Document → Prop
  /-- The document is the integer. -/
  | self : HoldsInteger n (.int n)
  /-- It occurs in an item of a list. -/
  | item {items : List Document} {d : Document} (hd : d ∈ items) (h : d.HoldsInteger n) :
    HoldsInteger n (.list items)
  /-- It is a key of an object. -/
  | key {fields : Fields} {f : Scalar × Document} (hf : f ∈ fields) (h : f.1 = .number (.int n)) :
    HoldsInteger n (.object fields)
  /-- It occurs in the value of a field. -/
  | value {fields : Fields} {f : Scalar × Document} (hf : f ∈ fields) (h : f.2.HoldsInteger n) :
    HoldsInteger n (.object fields)

/-- A number is written out unless it is an integer with too many digits. -/
theorem Scalar.isOverlong_iff {s : Scalar} :
    s.isOverlong = true ↔ ∃ n, s = .number (.int n) ∧ ¬ HasFewDigits n := by
  cases s with
  | number n =>
      cases n with
      | int n =>
          have hlimit : Json.digitLimit = Text.integerDigitLimit := rfl
          simp [isOverlong, Number.isOverlong, HasFewDigits, hlimit]
      | float x => simp [isOverlong, Number.isOverlong]
  | null | bool | text | bytes | date | instant | set | ellipsis => simp [isOverlong]

namespace Document

mutual

/-- A document can be spelled unless an integer with too many digits occurs in it. -/
theorem isOverlong_iff : ∀ d : Document,
    d.isOverlong = true ↔ ∃ n, d.HoldsInteger n ∧ ¬ HasFewDigits n
  | .scalar s => by
      rw [isOverlong, Scalar.isOverlong_iff]
      constructor
      · rintro ⟨n, rfl, hn⟩
        exact ⟨n, .self, hn⟩
      · rintro ⟨n, ⟨⟩, hn⟩
        exact ⟨n, rfl, hn⟩
  | .list items => by
      rw [isOverlong, anyOverlong_iff items]
      constructor
      · rintro ⟨d, hd, n, h, hn⟩
        exact ⟨n, .item hd h, hn⟩
      · rintro ⟨n, ⟨⟩ | ⟨hd, h⟩, hn⟩
        exact ⟨_, hd, n, h, hn⟩
  | .object fields => by
      rw [isOverlong, anyFieldOverlong_iff fields]
      constructor
      · rintro ⟨f, hf, n, h | h, hn⟩
        · exact ⟨n, .key hf h, hn⟩
        · exact ⟨n, .value hf h, hn⟩
      · rintro ⟨n, h, hn⟩
        cases h with
        | key hf h => exact ⟨_, hf, n, .inl h, hn⟩
        | value hf h => exact ⟨_, hf, n, .inr h, hn⟩

theorem anyOverlong_iff : ∀ items : List Document,
    anyOverlong items = true ↔ ∃ d ∈ items, ∃ n, d.HoldsInteger n ∧ ¬ HasFewDigits n
  | [] => by simp [anyOverlong]
  | d :: rest => by
      rw [anyOverlong, Bool.or_eq_true, isOverlong_iff d, anyOverlong_iff rest,
        List.exists_mem_cons_iff]

theorem anyFieldOverlong_iff : ∀ fields : Fields,
    anyFieldOverlong fields = true ↔
      ∃ f ∈ fields, ∃ n, (f.1 = .number (.int n) ∨ f.2.HoldsInteger n) ∧ ¬ HasFewDigits n
  | [] => by simp [anyFieldOverlong]
  | (key, value) :: rest => by
      rw [anyFieldOverlong, Bool.or_eq_true, Bool.or_eq_true, Scalar.isOverlong_iff,
        isOverlong_iff value, anyFieldOverlong_iff rest, List.exists_mem_cons_iff]
      simp only [or_and_right, exists_or]

end

end Document

namespace Signature

/-- The signatures of entries are those of the operations that they describe, whose documentation
can be read. -/
theorem Batch.map_signature_eq_iff {b : Batch} {entries : List (String × Document)}
    {signatures : List Signature} :
    entries.map b.signature = signatures.map .ok ↔
      ∃ operations : List Operation,
        entries.map (fun e => Operation.ofEntry e.1 e.2 b.shapes b.settings.maxDepth) =
            operations.map .ok ∧
          (∀ o ∈ operations, o.IsReadable) ∧ signatures = operations.map b.signatureOf := by
  induction entries generalizing signatures with
  | nil => cases signatures <;> simp
  | cons e rest ih =>
      cases signatures with
      | nil => simp
      | cons s signatures =>
          rw [List.map_cons, List.map_cons, List.cons.injEq, Batch.signature_eq_ok_iff, ih]
          constructor
          · rintro ⟨⟨o, ho, hreadable, rfl⟩, operations, hoperations, hall, rfl⟩
            refine ⟨o :: operations, ?_, List.forall_mem_cons.mpr ⟨hreadable, hall⟩, rfl⟩
            rw [List.map_cons, List.map_cons, ho, hoperations]
          · rintro ⟨operations, hoperations, hall, hsignatures⟩
            cases operations with
            | nil => cases hsignatures
            | cons o operations =>
                rw [List.map_cons, List.map_cons, List.cons.injEq] at hoperations
                rw [List.map_cons, List.cons.injEq] at hsignatures
                rw [List.forall_mem_cons] at hall
                exact ⟨⟨o, hoperations.1, hall.1, hsignatures.1⟩, operations, hoperations.2, hall.2,
                  hsignatures.2⟩

/-- The signatures of a model are those of its operations, whose documentation can be read. -/
theorem ofModelIn_eq_ok_iff_operations {order : List Nat} {settings : GeneratorSettings}
    {service : Option String} {workers : Int} {model : Document} {signatures : List Signature}
    (horder : order.Perm (List.range (Operation.entries model).length)) :
    ofModelIn order settings service workers model = .ok signatures ↔
      ∃ batch operations, Batch.ofModel settings service model = .ok batch ∧
        Operation.ofModel model settings.maxDepth = .ok operations ∧
          (∀ o ∈ operations, o.IsReadable) ∧ signatures = operations.map batch.signatureOf := by
  rw [ofModelIn_eq_ok_iff horder, sequential_eq_ok_iff]
  simp only [Batch.map_signature_eq_iff, Operation.ofModel_eq_ok_iff]
  constructor
  · rintro ⟨batch, hbatch, operations, hoperations, hreadable, rfl⟩
    obtain ⟨-, errors, -, rfl⟩ := Batch.ofModel_eq_ok_iff.mp hbatch
    exact ⟨_, operations, hbatch, hoperations, hreadable, rfl⟩
  · rintro ⟨batch, operations, hbatch, hoperations, hreadable, rfl⟩
    refine ⟨batch, hbatch, operations, ?_, hreadable, rfl⟩
    obtain ⟨-, errors, -, rfl⟩ := Batch.ofModel_eq_ok_iff.mp hbatch
    exact hoperations

end Signature

namespace Schema

section Agreement

variable {now : Instant} {service : Option String} {settings : GeneratorSettings}
  {workers : Int} {order : List Nat} {model : Document}

end Agreement

end Schema

end ServiceShell
