import Mathlib.Data.List.Nodup
import ServiceShell.Command.Compile
import ServiceShell.Proofs.Schema.Agreement
import ServiceShell.Proofs.Text.Hyphenated

/-!
# Operations that are looked up by name

An operation can be looked up by its name in the model or by its hyphenated name, and the first one
that has the name in either form is found. Different names in the model may have one hyphenated
form; then two commands have the same words, and an operation can stand in the way of a later one.

Main results:

- Theorem `Operation.find?_eq_some_iff`: an operation is found by its name in the model exactly when
  no operation before it has that name in hyphenated form.
- Theorem `Operation.forall_find?_of_nodup`: where all hyphenated names differ, every operation is
  found.
- Theorem `Signature.commands_nodup_iff`: the commands of a model differ exactly when the hyphenated
  names do.
- Theorem `Signature.commands_tell_operations_apart`: these facts together.
-/

namespace ServiceShell

namespace Operation

/-! ## Names of operations -/

section Names

variable {model : Document} {limit : Option Int} {operations : List Operation}

/-- The names in the model are those of the entries, whatever the shapes are. -/
theorem modelNames_of_ofModel (h : ofModel model limit = .ok operations) :
    operations.map modelName = (entries model).map fun e => entryName e.1 e.2 := by
  rw [ofModel_eq_ok_iff] at h
  refine List.ext_getElem? fun i => ?_
  have hentry := congrArg (·[i]?) h
  simp only [List.getElem?_map] at hentry ⊢
  cases hoperation : operations[i]? with
  | none =>
      rw [hoperation, Option.map_none, Option.map_eq_none_iff] at hentry
      rw [hentry]
      rfl
  | some o =>
      rw [hoperation, Option.map_some, Option.map_eq_some_iff] at hentry
      obtain ⟨e, hentry, hofEntry⟩ := hentry
      obtain ⟨input, output, -, -, rfl⟩ := ofEntry_eq_ok_iff.mp hofEntry
      rw [hentry]
      rfl

/-- The name of an operation is the hyphenated form of its name in the model. -/
theorem name_eq_kebab (h : ofModel model limit = .ok operations) {o : Operation}
    (ho : o ∈ operations) : o.name = Naming.kebab o.modelName := by
  obtain ⟨e, -, hofEntry⟩ := exists_item_of_mem (ofModel_eq_ok_iff.mp h) ho
  obtain ⟨input, output, -, -, rfl⟩ := ofEntry_eq_ok_iff.mp hofEntry
  rfl

theorem names_of_ofModel (h : ofModel model limit = .ok operations) :
    operations.map name = (operations.map modelName).map Naming.kebab := by
  rw [List.map_map]
  exact List.map_congr_left fun o ho => name_eq_kebab h ho

end Names

/-! ## Looking up -/

section Find

variable {operations : List Operation} {o : Operation} {i : Nat}

/-- An operation comes after those before it. -/
theorem eq_take_append (ho : operations[i]? = some o) :
    operations = operations.take i ++ o :: operations.drop (i + 1) := by
  obtain ⟨hi, hget⟩ := List.getElem?_eq_some_iff.mp ho
  rw [← hget, List.getElem_cons_drop, List.take_append_drop]

/-- Where operations differ in something, each differs in it from those before it. -/
theorem ne_of_mem_take {field : Operation → String} (hdistinct : (operations.map field).Nodup)
    (ho : operations[i]? = some o) {earlier : Operation} (hearlier : earlier ∈ operations.take i) :
    field earlier ≠ field o := by
  rw [eq_take_append ho, List.map_append, List.map_cons, List.nodup_append] at hdistinct
  exact hdistinct.2.2 _ (List.mem_map_of_mem hearlier) _ List.mem_cons_self

/-- Where the names in the model differ, an operation is found by its own exactly when no operation
before it has that name in hyphenated form. -/
theorem find?_eq_some_iff (hdistinct : (operations.map modelName).Nodup)
    (ho : operations[i]? = some o) :
    find? operations o.modelName = some o ↔
      ∀ earlier ∈ operations.take i, earlier.name ≠ o.modelName := by
  have hbefore : ∀ earlier ∈ operations.take i, earlier.modelName ≠ o.modelName :=
    fun _ hearlier => ne_of_mem_take hdistinct ho hearlier
  have hfirst : find? operations o.modelName =
      ((operations.take i).find? (isNamed o.modelName)).or (some o) := by
    conv_lhs => rw [find?, eq_take_append ho, List.find?_append,
      List.find?_cons_of_pos (by simp [isNamed])]
  rw [hfirst]
  constructor
  · intro hfind earlier hearlier hname
    cases hfound : (operations.take i).find? (isNamed o.modelName) with
    | none =>
        rw [List.find?_eq_none] at hfound
        exact hfound earlier hearlier (by simp [isNamed, hname])
    | some found =>
        rw [hfound, Option.some_or, Option.some.injEq] at hfind
        exact hbefore found (List.mem_of_find?_eq_some hfound) (congrArg modelName hfind)
  · intro hnames
    have hnone : (operations.take i).find? (isNamed o.modelName) = none := by
      rw [List.find?_eq_none]
      intro earlier hearlier
      simp [isNamed, Ne.symm (hbefore earlier hearlier), Ne.symm (hnames earlier hearlier)]
    rw [hnone, Option.none_or]

/-- What is found by the name of an operation in the model has the hyphenated name of this operation
at least. -/
theorem exists_find? {model : Document} {limit : Option Int}
    (h : ofModel model limit = .ok operations) (ho : o ∈ operations) :
    ∃ found ∈ operations, find? operations o.modelName = some found ∧ found.name = o.name := by
  obtain ⟨found, hfound⟩ : ∃ found, find? operations o.modelName = some found := by
    rw [← Option.isSome_iff_exists, find?, List.find?_isSome]
    exact ⟨o, ho, by simp [isNamed]⟩
  have hmem : found ∈ operations := List.mem_of_find?_eq_some hfound
  refine ⟨found, hmem, hfound, ?_⟩
  have hname := name_eq_kebab h hmem
  rw [name_eq_kebab h ho]
  rcases find?_eq_some hfound with heq | heq
  · rw [heq, hname]
  · -- The name is a hyphenated form, and so its own.
    rw [heq, hname, Naming.kebab_kebab]

/-- Where all hyphenated names differ, every operation is found by its name in the model. -/
theorem forall_find?_of_nodup {model : Document} {limit : Option Int}
    (h : ofModel model limit = .ok operations) (hnames : (operations.map name).Nodup) :
    ∀ o ∈ operations, find? operations o.modelName = some o := by
  intro o ho
  obtain ⟨found, hmem, hfound, hname⟩ := exists_find? h ho
  rw [hfound, List.inj_on_of_nodup_map hnames hmem ho hname]

end Find

end Operation

/-! ## Commands -/

namespace Signature

/-- The words of a command tell its operation. -/
theorem commandWords_injective (settings : GeneratorSettings) (service : String) :
    Function.Injective (commandWords settings service) := by
  intro name other h
  exact (String.append_right_inj _).mp h

section Commands

variable {order : List Nat} {settings : GeneratorSettings} {service : Option String}
  {workers : Int} {model : Document} {limit : Option Int} {signatures : List Signature}
  {operations : List Operation}

/-- The commands of a model differ exactly when the hyphenated names of its operations do. -/
theorem commands_nodup_iff (horder : order.Perm (List.range (Operation.entries model).length))
    (hsignatures : ofModelIn order settings service workers model = .ok signatures)
    (hoperations : Operation.ofModel model limit = .ok operations) :
    (signatures.map command).Nodup ↔ (operations.map Operation.name).Nodup := by
  obtain ⟨batch, others, -, hothers, -, rfl⟩ :=
    (ofModelIn_eq_ok_iff_operations horder).mp hsignatures
  -- The limit is for shapes and leaves the names as they are.
  have hnames : others.map Operation.name = operations.map Operation.name := by
    rw [Operation.names_of_ofModel hothers, Operation.names_of_ofModel hoperations,
      Operation.modelNames_of_ofModel hothers, Operation.modelNames_of_ofModel hoperations]
  have hcommands : (others.map batch.signatureOf).map command =
      (others.map Operation.name).map (commandWords batch.settings batch.service) := by
    rw [List.map_map, List.map_map]
    rfl
  rw [hcommands, hnames, List.nodup_map_iff (commandWords_injective _ _)]

/-- The commands of a model differ exactly when the hyphenated names of its operations do, and then
each operation is found by its name in the model.  Otherwise what is found has the hyphenated name
of the operation, and it is the operation itself exactly when none before it has its name in the
model as a hyphenated name. -/
theorem commands_tell_operations_apart
    (horder : order.Perm (List.range (Operation.entries model).length))
    (hsignatures : ofModelIn order settings service workers model = .ok signatures)
    (hoperations : Operation.ofModel model limit = .ok operations)
    (hdistinct : (operations.map Operation.modelName).Nodup) :
    ((signatures.map command).Nodup ↔ (operations.map Operation.name).Nodup) ∧
    ((operations.map Operation.name).Nodup →
      ∀ o ∈ operations, Operation.find? operations o.modelName = some o) ∧
    ∀ i o, operations[i]? = some o →
      (∃ found ∈ operations, Operation.find? operations o.modelName = some found ∧
        found.name = o.name) ∧
      (Operation.find? operations o.modelName = some o ↔
        ∀ earlier ∈ operations.take i, earlier.name ≠ o.modelName) :=
  ⟨commands_nodup_iff horder hsignatures hoperations,
    Operation.forall_find?_of_nodup hoperations,
    fun _ _ ho => ⟨Operation.exists_find? hoperations (List.mem_of_getElem? ho),
      Operation.find?_eq_some_iff hdistinct ho⟩⟩

end Commands

/-- A model with two operations, one of which has the hyphenated name of the other. -/
def twinModel : Document :=
  .ofPairs [("operations", .ofPairs [("ListBuckets", .ofPairs []), ("list-buckets", .ofPairs [])])]

/-- Two operations with different names in the model share one command, and the second of them is
not found by its name. -/
theorem twinModel_commands : ∃ signatures operations,
    ofModelIn [1, 0] {} (some "s3") 2 twinModel = .ok signatures ∧
      Operation.ofModel twinModel none = .ok operations ∧
      operations.map Operation.modelName = ["ListBuckets", "list-buckets"] ∧
      ¬ (signatures.map command).Nodup ∧
      ∃ o ∈ operations, Operation.find? operations o.modelName ≠ some o := by
  obtain ⟨signatures, hsignatures⟩ :
      ∃ signatures, ofModelIn [1, 0] {} (some "s3") 2 twinModel = .ok signatures := ⟨_, rfl⟩
  obtain ⟨first, second, hoperations, hmodelNames, hnames⟩ : ∃ first second,
      Operation.ofModel twinModel none = .ok [first, second] ∧
        [first, second].map Operation.modelName = ["ListBuckets", "list-buckets"] ∧
        [first, second].map Operation.name = ["list-buckets", "list-buckets"] :=
    ⟨_, _, rfl, by decide, by decide⟩
  obtain ⟨hcommands, -, hfind⟩ := commands_tell_operations_apart (by decide) hsignatures hoperations
    (by rw [hmodelNames]; decide)
  refine ⟨signatures, _, hsignatures, hoperations, hmodelNames, ?_, second, by simp, ?_⟩
  · rw [hcommands, hnames]
    decide
  · simp only [List.map_cons, List.map_nil, List.cons.injEq, and_true] at hmodelNames hnames
    intro hfound
    refine (hfind 1 second rfl).2.mp hfound first (by simp) ?_
    rw [hnames.1, hmodelNames.2]

end Signature

end ServiceShell
