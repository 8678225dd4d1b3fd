import Mathlib.Data.Set.List
import ServiceShell.Proofs.Document.Fields
import ServiceShell.Proofs.Result
import ServiceShell.Proofs.Text.Reference
import ServiceShell.Signature.Batch

/-!
# Signatures made by workers

Workers finish the signatures of a model in any order.  Each signature is put into the slot of its
operation, so that the order leaves no trace in what is made.  An operation has a signature if its
documentation can be read.

Main results:

- Theorem `Signature.Batch.signature_eq_ok_iff`: when an entry of a model has a signature, and
  which one.
- Definition `Signature.Holds`: the slots that are filled once some of the tasks are finished.
- Theorem `Signature.gather_eq_ok_iff`: what is gathered are the values of the tasks, in order.
- Theorem `Signature.concurrent_eq_ok_iff`: workers make what is made one after the other.
- Theorem `Signature.ofModelIn_agrees`: the order has no effect, and each signature is the one that
  its operation has in a model of its own.
-/

namespace ServiceShell

/-- Whether all documentation that is summarized for an operation can be read. -/
def Operation.IsReadable (o : Operation) : Prop :=
  ∀ text ∈ o.documentations, Text.IsReadable text

instance (o : Operation) : Decidable o.IsReadable :=
  inferInstanceAs (Decidable (∀ text ∈ o.documentations, Text.IsReadable text))

namespace Signature

/-! ## One signature -/

/-- An operation has a signature exactly if its documentation can be read. -/
theorem assemble_eq_ok_iff {settings : GeneratorSettings} {service : String}
    {pagination : Pagination} {errors : List ErrorDescriptor} {o : Operation} {s : Signature} :
    assemble settings service pagination errors o = .ok s ↔
      o.IsReadable ∧ s = ofOperation settings service pagination errors o := by
  have hreadable : o.documentations.findSome? Text.overlong? = none ↔ o.IsReadable := by
    simp only [List.findSome?_eq_none_iff, Text.overlong?_eq_none_iff, Operation.IsReadable]
  unfold assemble
  rw [← hreadable]
  cases o.documentations.findSome? Text.overlong? with
  | none => simp [eq_comm]
  | some count => simp

/-- The signature that a batch makes for an operation. -/
def Batch.signatureOf (b : Batch) (o : Operation) : Signature :=
  ofOperation b.settings b.service (b.paginationOf o) b.errors o

/-- The signature of an entry is that of the operation that it describes, whose documentation can be
read. -/
theorem Batch.signature_eq_ok_iff {b : Batch} {e : String × Document} {s : Signature} :
    b.signature e = .ok s ↔
      ∃ o, Operation.ofEntry e.1 e.2 b.shapes b.settings.maxDepth = .ok o ∧ o.IsReadable ∧
        s = b.signatureOf o := by
  unfold Batch.signature
  cases Operation.ofEntry e.1 e.2 b.shapes b.settings.maxDepth with
  | error failure => simp
  | ok o => simp [mapError_eq_ok_iff, assemble_eq_ok_iff, Batch.signatureOf]

/-! ## Slots -/

section Slots

variable {ε α : Type} {values : List α} {finished order : List Nat} {slots : List (Option α)}
  {result : Nat → Except ε α}

/-- Whether the slots hold the values of the tasks that are finished, and no others. -/
def Holds (values : List α) (finished : List Nat) (slots : List (Option α)) : Prop :=
  ∀ i, slots[i]? = values[i]?.map fun a => if i ∈ finished then some a else none

theorem holds_nil (values : List α) : Holds values [] (values.map fun _ => none) := by
  intro i
  simp only [List.getElem?_map, List.not_mem_nil, if_false]

/-- One more task is finished. -/
theorem Holds.set {index : Nat} {a : α} (hslots : Holds values finished slots)
    (ha : values[index]? = some a) :
    Holds values (index :: finished) (slots.set index (some a)) := by
  intro i
  rw [List.getElem?_set]
  by_cases hi : index = i
  · subst hi
    have hindex : index < slots.length := by
      have hslot := hslots index
      rw [ha] at hslot
      exact (List.getElem?_eq_some_iff.mp hslot).1
    simp [ha, hindex]
  · have hother : i ≠ index := Ne.symm hi
    simp [hi, hother, hslots i]

/-- Once all tasks are finished, the slots hold all values. -/
theorem Holds.eq_map_some (hslots : Holds values finished slots)
    (hall : ∀ i < values.length, i ∈ finished) : slots = values.map some := by
  apply List.ext_getElem?
  intro i
  rw [hslots i, List.getElem?_map]
  cases hvalue : values[i]? with
  | none => rfl
  | some a =>
      have hi := (List.getElem?_eq_some_iff.mp hvalue).1
      simp [hall i hi]

/-- Tasks that give values fill the slots with them, whatever the order is. -/
theorem exists_place (hslots : Holds values finished slots)
    (hresult : ∀ i ∈ order, ∃ a, values[i]? = some a ∧ result i = .ok a) :
    ∃ filled, place result order slots = .ok filled ∧
      Holds values (order.reverse ++ finished) filled := by
  induction order generalizing finished slots with
  | nil => exact ⟨slots, rfl, hslots⟩
  | cons index rest ih =>
      obtain ⟨a, ha, hindex⟩ := hresult index List.mem_cons_self
      obtain ⟨filled, hfilled, hholds⟩ :=
        ih (hslots.set ha) fun i hi => hresult i (List.mem_cons_of_mem _ hi)
      refine ⟨filled, ?_, ?_⟩
      · rw [place, hindex]
        exact hfilled
      · rw [List.reverse_cons, List.append_assoc, List.singleton_append]
        exact hholds

/-- Slots are filled only if no task in the order fails. -/
theorem exists_ok_of_place {filled : List (Option α)} (h : place result order slots = .ok filled) :
    ∀ i ∈ order, ∃ a, result i = .ok a := by
  induction order generalizing slots with
  | nil =>
      intro i hi
      cases hi
  | cons index rest ih =>
      rw [place] at h
      split at h
      · rename_i a ha
        rw [List.forall_mem_cons]
        exact ⟨⟨a, ha⟩, ih h⟩
      · cases h

end Slots

/-! ## Tasks -/

section Tasks

variable {ε α : Type} {tasks : List (Except ε α)} {order : List Nat} {missing : Except ε α}

/-- Tasks that all give values are gathered, whatever the order is. -/
theorem gather_map_ok {values : List α} (horder : order.Perm (List.range values.length)) :
    gather (values.map .ok) order missing = .ok values := by
  have hresult : ∀ i ∈ order, ∃ a, values[i]? = some a ∧
      (values.map .ok).getD i missing = .ok a := by
    intro i hi
    rw [horder.mem_iff, List.mem_range] at hi
    exact ⟨values[i], by simp [hi], by simp [hi]⟩
  obtain ⟨filled, hfilled, hholds⟩ := exists_place (holds_nil values) hresult
  have heq : filled = values.map some := by
    apply hholds.eq_map_some
    intro i hi
    simpa [horder.mem_iff] using hi
  have hslots : ((values.map .ok).map fun _ : Except ε α => (none : Option α)) =
      values.map fun _ => none := by
    rw [List.map_map]
    rfl
  rw [gather, hslots, hfilled, heq]
  simp [Except.map]

/-- Tasks are gathered only if they all give values. -/
theorem exists_values_of_gather {gathered : List α}
    (horder : order.Perm (List.range tasks.length))
    (h : gather tasks order missing = .ok gathered) :
    ∃ values : List α, tasks = values.map .ok := by
  unfold gather at h
  cases hplace : place (fun i => tasks.getD i missing) order (tasks.map fun _ => none) with
  | error e =>
      rw [hplace] at h
      cases h
  | ok filled =>
      have hok : tasks ∈ Set.range (List.map (.ok : α → Except ε α)) := by
        rw [Set.range_list_map]
        intro task htask
        obtain ⟨i, hi, rfl⟩ := List.mem_iff_getElem.mp htask
        have hmem : i ∈ order := by
          rw [horder.mem_iff, List.mem_range]
          exact hi
        obtain ⟨a, ha⟩ := exists_ok_of_place hplace i hmem
        refine ⟨a, ?_⟩
        rw [← ha]
        simp [hi]
      obtain ⟨values, hvalues⟩ := hok
      exact ⟨values, hvalues.symm⟩

/-- What is gathered are the values of the tasks, in the order of the tasks. -/
theorem gather_eq_ok_iff {values : List α} (horder : order.Perm (List.range tasks.length)) :
    gather tasks order missing = .ok values ↔ tasks = values.map .ok := by
  constructor
  · intro h
    obtain ⟨finished, rfl⟩ := exists_values_of_gather horder h
    rw [List.length_map] at horder
    rw [gather_map_ok horder] at h
    cases h
    rfl
  · rintro rfl
    rw [List.length_map] at horder
    exact gather_map_ok horder

end Tasks

/-! ## Orders -/

section Orders

variable {order : List Nat} {settings : GeneratorSettings} {service : Option String}
  {workers : Int} {model : Document} {signatures : List Signature}

/-- The signatures of a model, made by some workers that finish in an order. One worker, or one
operation, is served in sequence. -/
def ofModelIn (order : List Nat) (settings : GeneratorSettings) (service : Option String)
    (workers : Int) (model : Document) : Except CompileError (List Signature) :=
  if workers ≤ 1 ∨ (Operation.entries model).length ≤ 1 then sequential settings service model
  else concurrent order settings service model

theorem ofModel_eq_ofModelIn : ofModel settings service workers model =
    ofModelIn (List.range (Operation.entries model).length) settings service workers model :=
  rfl

/-- One after the other, the signatures are those of the entries. -/
theorem sequential_eq_ok_iff : sequential settings service model = .ok signatures ↔
    ∃ batch, Batch.ofModel settings service model = .ok batch ∧
      (Operation.entries model).map batch.signature = signatures.map .ok := by
  simp only [sequential, bind_eq_ok_iff, mapM_eq_ok_iff]

/-- Workers make what is made one after the other, in whatever order they finish. -/
theorem concurrent_eq_ok_iff
    (horder : order.Perm (List.range (Operation.entries model).length)) :
    concurrent order settings service model = .ok signatures ↔
      sequential settings service model = .ok signatures := by
  have htasks : ∀ batch : Batch,
      order.Perm (List.range ((Operation.entries model).map batch.signature).length) := by
    intro batch
    rw [List.length_map]
    exact horder
  simp only [concurrent, bind_eq_ok_iff, gather_eq_ok_iff (htasks _), sequential_eq_ok_iff]

theorem ofModelIn_eq_ok_iff
    (horder : order.Perm (List.range (Operation.entries model).length)) :
    ofModelIn order settings service workers model = .ok signatures ↔
      sequential settings service model = .ok signatures := by
  unfold ofModelIn
  split
  · rfl
  · exact concurrent_eq_ok_iff horder

end Orders

/-! ## Operations on their own -/

section Alone

variable {settings : GeneratorSettings} {service : Option String} {model : Document}
  {signatures : List Signature}

/-- A model with one of its operations only, and all its other parts. -/
def onlyOperation (model : Document) (index : Nat) : Document :=
  let kept := (model.getD "operations").fields[index]?.toList
  .object (Fields.put (.text "operations") (.object kept) model.fields)

/-- The other parts of the model are kept. -/
theorem getD_onlyOperation {key : String} (hkey : key ≠ "operations") (model : Document)
    (index : Nat) : (onlyOperation model index).getD key = model.getD key := by
  change (Fields.get? key (Fields.put _ _ model.fields)).getD .null = _
  rw [Fields.get?_put, if_neg hkey]
  rfl

/-- One entry is kept. -/
theorem entries_onlyOperation (model : Document) (index : Nat) :
    Operation.entries (onlyOperation model index) =
      (Operation.entries model)[index]?.toList := by
  have hfield : (onlyOperation model index).getD "operations" =
      .object (model.getD "operations").fields[index]?.toList := by
    change (Fields.get? "operations" (Fields.put _ _ model.fields)).getD .null = _
    rw [Fields.get?_put, if_pos rfl]
    rfl
  rw [Operation.entries, hfield, Operation.entries, List.getElem?_map]
  cases (model.getD "operations").fields[index]? <;> rfl

/-- What operations share is known exactly when the errors of the model are and the metadata can be
spelled, if the service is to be named by them. -/
theorem Batch.ofModel_eq_ok_iff {batch : Batch} :
    Batch.ofModel settings service model = .ok batch ↔
      (service.getD "" = "" → Metadata.isOverlong model = false) ∧
      ∃ errors, ErrorDescriptor.ofTable (Operation.shapeTable model) = .ok errors ∧
        batch =
          { settings, errors
            service := serviceOf model service
            shapes := Operation.shapeTable model
            pagination := (model.getD "pagination").fields } := by
  have hspelled : (derivesService service && Metadata.isOverlong model) = false ↔
      (service.getD "" = "" → Metadata.isOverlong model = false) := by
    simp [derivesService]
  rw [← hspelled, Batch.ofModel]
  cases derivesService service && Metadata.isOverlong model with
  | true => simp
  | false => cases ErrorDescriptor.ofTable (Operation.shapeTable model) <;> simp [eq_comm]

/-- What the operations of a model share does not depend on the operations. -/
theorem Batch.ofModel_onlyOperation (index : Nat) :
    Batch.ofModel settings service (onlyOperation model index) =
      Batch.ofModel settings service model := by
  have hshapes := getD_onlyOperation (by decide : "shapes" ≠ "operations") model index
  have hpagination := getD_onlyOperation (by decide : "pagination" ≠ "operations") model index
  have hmetadata := getD_onlyOperation (by decide : "metadata" ≠ "operations") model index
  have hspelled : Metadata.isOverlong (onlyOperation model index) = Metadata.isOverlong model := by
    rw [Metadata.isOverlong, hmetadata, ← Metadata.isOverlong]
  rw [Batch.ofModel, Batch.ofModel, hspelled]
  simp only [Operation.shapeTable, serviceOf, Metadata.ofModel, hshapes, hpagination, hmetadata]

/-- Each signature is the one that its operation has in a model of its own. -/
theorem ofModel_onlyOperation {index : Nat} {s : Signature} {workers : Int}
    (h : sequential settings service model = .ok signatures) (hs : signatures[index]? = some s) :
    ofModel settings service workers (onlyOperation model index) = .ok [s] := by
  obtain ⟨batch, hbatch, hentries⟩ := sequential_eq_ok_iff.mp h
  have hentry : ((Operation.entries model).map batch.signature)[index]? = some (.ok s) := by
    rw [hentries, List.getElem?_map, hs]
    rfl
  rw [List.getElem?_map, Option.map_eq_some_iff] at hentry
  obtain ⟨entry, hentry, hsignature⟩ := hentry
  have honly : Operation.entries (onlyOperation model index) = [entry] := by
    rw [entries_onlyOperation, hentry]
    rfl
  have hsequential : sequential settings service (onlyOperation model index) = .ok [s] := by
    refine sequential_eq_ok_iff.mpr ⟨batch, ?_, ?_⟩
    · rw [Batch.ofModel_onlyOperation]
      exact hbatch
    · rw [honly, List.map_singleton, hsignature, List.map_singleton]
  rw [ofModel_eq_ofModelIn]
  exact (ofModelIn_eq_ok_iff (List.Perm.refl _)).mpr hsequential

end Alone

/-! ## Main results -/

/-- In whatever order some workers finish, they make the signatures that are made one after the
other, and fail exactly when these fail: one signature for each entry of the model, in its place,
which is the one that the entry has in a model of its own. -/
theorem ofModelIn_agrees {order : List Nat} {settings : GeneratorSettings}
    {service : Option String} {workers : Int} {model : Document}
    (horder : order.Perm (List.range (Operation.entries model).length)) :
    (∀ signatures, ofModelIn order settings service workers model = .ok signatures ↔
      sequential settings service model = .ok signatures) ∧
    ((∃ e, ofModelIn order settings service workers model = .error e) ↔
      ∃ e, sequential settings service model = .error e) ∧
    ∀ signatures, ofModelIn order settings service workers model = .ok signatures →
      signatures.length = (Operation.entries model).length ∧
        ∀ index s alone, signatures[index]? = some s →
          ofModel settings service alone (onlyOperation model index) = .ok [s] := by
  have hok : ∀ signatures, ofModelIn order settings service workers model = .ok signatures ↔
      sequential settings service model = .ok signatures :=
    fun _ => ofModelIn_eq_ok_iff horder
  refine ⟨hok, ?_, ?_⟩
  · rw [exists_error_iff, exists_error_iff]
    simp only [ne_eq, hok]
  · intro signatures h
    rw [hok] at h
    constructor
    · obtain ⟨batch, -, hentries⟩ := sequential_eq_ok_iff.mp h
      have hlength := congrArg List.length hentries
      rw [List.length_map, List.length_map] at hlength
      exact hlength.symm
    · intro index s alone hs
      exact ofModel_onlyOperation h hs

/-- A model with two operations. -/
def pairModel : Document :=
  .ofPairs [("operations", .ofPairs [("ListBuckets", .ofPairs []), ("PutObject", .ofPairs [])])]

/-- Two workers, the second of which finishes first, make the two signatures in their order. -/
theorem pairModel_agrees : ∃ first second,
    ofModelIn [1, 0] {} none 2 pairModel = .ok [first, second] ∧
      sequential {} none pairModel = .ok [first, second] ∧
      ofModel {} none 1 (onlyOperation pairModel 0) = .ok [first] ∧
      ofModel {} none 1 (onlyOperation pairModel 1) = .ok [second] := by
  have horder : [1, 0].Perm (List.range (Operation.entries pairModel).length) := by decide
  obtain ⟨hok, -, honly⟩ := @ofModelIn_agrees [1, 0] {} none 2 pairModel horder
  obtain ⟨first, second, hsequential⟩ :
      ∃ first second, sequential {} none pairModel = .ok [first, second] := ⟨_, _, rfl⟩
  have hworkers := (hok _).mpr hsequential
  obtain ⟨-, halone⟩ := honly _ hworkers
  exact ⟨first, second, hworkers, hsequential, halone 0 first 1 rfl, halone 1 second 1 rfl⟩

end Signature

end ServiceShell
