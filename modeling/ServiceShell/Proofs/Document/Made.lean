import Mathlib.Data.List.Nodup
import ServiceShell.Proofs.Document.Fields

/-!
# What documents are made of

A document that comes from a text has texts as keys, no key twice in an object, and scalars of
certain kinds only.  This module names such documents, and says that they stay what they are when a
field is put, and that entries with distinct keys are the fields that they give.

Main results:

- Definition `Document.IsMadeOf`: objects with distinct texts as keys, over scalars of a kind.
- Theorem `Fields.ofEntries_eq_self`: entries with distinct texts as keys are fields already.
- Theorems `Document.IsMadeOf.put` and `Document.IsMadeOf.ofEntries`: a field may be put, and
  entries in any number give such an object.
-/

namespace ServiceShell

/-! ## Names of fields -/

/-- The keys of fields are texts, each of them once. -/
structure Fields.HasNames (fields : Fields) : Prop where
  /-- Every key is a text. -/
  text : ∀ key ∈ fields.keys, ∃ name, key = .text name
  /-- No key occurs twice. -/
  distinct : fields.keys.Nodup

namespace Fields

@[simp] theorem keys_cons (key : Scalar) (value : Document) (fields : Fields) :
    keys ((key, value) :: fields) = key :: keys fields := rfl

@[simp] theorem keys_append (first second : Fields) :
    keys (first ++ second) = keys first ++ keys second :=
  List.map_append

theorem HasNames.nil : HasNames [] := ⟨by simp [keys], List.nodup_nil⟩

/-- The fields behind the first one have names too. -/
theorem HasNames.tail {key : Scalar} {value : Document} {fields : Fields}
    (h : HasNames ((key, value) :: fields)) : HasNames fields :=
  ⟨fun k hk => h.text k (List.mem_cons_of_mem _ hk), (List.nodup_cons.mp h.distinct).2⟩

/-- Pairs with distinct names give fields with names. -/
theorem hasNames_pairs {pairs : List (String × Document)} (h : (pairs.map Prod.fst).Nodup) :
    HasNames (pairs.map fun p => (.text p.1, p.2)) := by
  have hkeys : keys (pairs.map fun p => (.text p.1, p.2)) = (pairs.map Prod.fst).map .text := by
    rw [keys, List.map_map, List.map_map]
    rfl
  constructor
  · intro key hkey
    rw [hkeys] at hkey
    obtain ⟨name, -, rfl⟩ := List.mem_map.mp hkey
    exact ⟨name, rfl⟩
  · rw [hkeys]
    exact h.map fun _ _ heq => Scalar.text.inj heq

/-! ## Putting fields -/

/-- A field with a new name comes last. -/
theorem put_of_notMem {name : String} {value : Document} {fields : Fields}
    (h : .text name ∉ keys fields) :
    put (.text name) value fields = fields ++ [(.text name, value)] := by
  induction fields with
  | nil => rfl
  | cons field rest ih =>
      obtain ⟨key, other⟩ := field
      obtain ⟨hkey, hrest⟩ := not_or.mp (List.mem_cons.not.mp h)
      rw [put, Scalar.same_text_right, decide_eq_false (Ne.symm hkey), ih hrest]
      rfl

/-- Putting a field changes no key, or adds one at the end. -/
theorem keys_put (name : String) (value : Document) (fields : Fields) :
    keys (put (.text name) value fields) =
      if .text name ∈ keys fields then keys fields else keys fields ++ [.text name] := by
  induction fields with
  | nil => rfl
  | cons field rest ih =>
      obtain ⟨key, other⟩ := field
      rw [put, Scalar.same_text_right]
      by_cases hkey : key = .text name
      · simp [hkey]
      · have hother : (.text name) ≠ key := Ne.symm hkey
        simp only [hkey, decide_false, Bool.false_eq_true, ↓reduceIte, keys_cons, ih,
          List.mem_cons, hother, false_or]
        split <;> rfl

/-- A field that stands there after one was put is that one, or stood there before. -/
theorem mem_put {name : String} {value : Document} {fields : Fields} {field : Scalar × Document}
    (h : field ∈ put (.text name) value fields) : field ∈ fields ∨ field.2 = value := by
  induction fields with
  | nil => exact .inr (congrArg Prod.snd (List.mem_singleton.mp h))
  | cons first rest ih =>
      obtain ⟨key, other⟩ := first
      rw [put] at h
      split at h
      · rcases List.mem_cons.mp h with rfl | hrest
        · exact .inr rfl
        · exact .inl (List.mem_cons_of_mem _ hrest)
      · rcases List.mem_cons.mp h with rfl | hrest
        · exact .inl List.mem_cons_self
        · exact (ih hrest).imp_left (List.mem_cons_of_mem _)

theorem HasNames.put {fields : Fields} (h : HasNames fields) (name : String) (value : Document) :
    HasNames (put (.text name) value fields) := by
  constructor <;> rw [keys_put] <;> split <;> rename_i hmem
  · exact h.text
  · intro key hkey
    rcases List.mem_append.mp hkey with hold | hnew
    · exact h.text key hold
    · exact ⟨name, List.mem_singleton.mp hnew⟩
  · exact h.distinct
  · exact h.distinct.append (List.nodup_singleton _)
      (List.disjoint_singleton.mpr hmem)

/-! ## Entries -/

/-- Entries with names of their own are added behind the fields that are there. -/
theorem foldl_put {fields entries : Fields} (h : HasNames (fields ++ entries)) :
    entries.foldl (fun fields e => put e.1 e.2 fields) fields = fields ++ entries := by
  induction entries generalizing fields with
  | nil => simp
  | cons entry rest ih =>
      obtain ⟨key, value⟩ := entry
      obtain ⟨name, rfl⟩ := h.text key (by simp)
      have hfresh : .text name ∉ keys fields := by
        have hnodup := h.distinct
        rw [keys_append, keys_cons, List.nodup_append] at hnodup
        exact fun hmem => hnodup.2.2 _ hmem _ List.mem_cons_self rfl
      rw [List.foldl_cons, put_of_notMem hfresh, ih (by simpa using h)]
      simp

/-- Entries with distinct texts as keys are fields already. -/
theorem ofEntries_eq_self {entries : Fields} (h : HasNames entries) :
    ofEntries entries = entries := by
  have hfold := foldl_put ((List.nil_append entries).symm ▸ h)
  rwa [List.nil_append] at hfold

end Fields

/-! ## Documents -/

/-- A document whose scalars are of a kind, and whose objects have distinct texts as keys. -/
inductive Document.IsMadeOf (kind : Scalar → Prop) : Document → Prop
  /-- A scalar of the kind. -/
  | scalar {value : Scalar} (h : kind value) : IsMadeOf kind (.scalar value)
  /-- A list of such documents. -/
  | list {items : List Document} (h : ∀ d ∈ items, IsMadeOf kind d) : IsMadeOf kind (.list items)
  /-- An object with such documents as values. -/
  | object {fields : Fields} (hvalues : ∀ f ∈ fields, IsMadeOf kind f.2)
      (hnames : fields.HasNames) : IsMadeOf kind (.object fields)

namespace Document.IsMadeOf

variable {kind other : Scalar → Prop}

theorem mono (himp : ∀ s, kind s → other s) {d : Document} (h : d.IsMadeOf kind) :
    d.IsMadeOf other := by
  induction h with
  | scalar h => exact .scalar (himp _ h)
  | list _ ih => exact .list ih
  | object _ hnames ih => exact .object ih hnames

theorem of_scalar {value : Scalar} (h : IsMadeOf kind (.scalar value)) : kind value := by
  cases h with
  | scalar h => exact h

theorem of_list {items : List Document} (h : IsMadeOf kind (.list items)) :
    ∀ d ∈ items, IsMadeOf kind d := by
  cases h with
  | list h => exact h

theorem values {fields : Fields} (h : IsMadeOf kind (.object fields)) :
    ∀ f ∈ fields, IsMadeOf kind f.2 := by
  cases h with
  | object h _ => exact h

theorem names {fields : Fields} (h : IsMadeOf kind (.object fields)) : fields.HasNames := by
  cases h with
  | object _ h => exact h

/-- An object that is given by pairs. -/
theorem ofPairs {pairs : List (String × Document)} (hnames : (pairs.map Prod.fst).Nodup)
    (h : ∀ p ∈ pairs, p.2.IsMadeOf kind) : (Document.ofPairs pairs).IsMadeOf kind := by
  refine .object ?_ (Fields.hasNames_pairs hnames)
  intro f hf
  obtain ⟨p, hp, rfl⟩ := List.mem_map.mp hf
  exact h p hp

/-- What is found in an object. -/
theorem get? {fields : Fields} (h : IsMadeOf kind (.object fields)) {name : String}
    {value : Document} (hget : Fields.get? name fields = some value) : value.IsMadeOf kind :=
  h.values _ (Fields.mem_of_get? hget)

/-- The fields of a document; one that is no object has none. -/
theorem object_fields {d : Document} (h : d.IsMadeOf kind) :
    IsMadeOf kind (.object d.fields) := by
  cases d with
  | object => exact h
  | _ => exact .object (by simp [Document.fields, Document.fields?]) .nil

/-- A field of a document is missing, or such a document. -/
theorem getD_cases {d : Document} (h : d.IsMadeOf kind) (key : String) :
    d.getD key = .null ∨ (d.getD key).IsMadeOf kind := by
  unfold Document.getD
  cases hget : d.get? key with
  | none => exact .inl rfl
  | some value => exact .inr (h.object_fields.get? hget)

/-- A field may be put. -/
theorem put {fields : Fields} (h : IsMadeOf kind (.object fields)) (name : String)
    {value : Document} (hvalue : value.IsMadeOf kind) :
    IsMadeOf kind (.object (fields.put (.text name) value)) := by
  refine .object ?_ (h.names.put name value)
  intro f hf
  rcases Fields.mem_put hf with hold | rfl
  · exact h.values f hold
  · exact hvalue

/-- Entries of such documents under texts give an object, whatever texts occur twice. -/
theorem ofEntries {entries : Fields} (hkeys : ∀ e ∈ entries, ∃ name, e.1 = .text name)
    (hvalues : ∀ e ∈ entries, e.2.IsMadeOf kind) :
    IsMadeOf kind (.object (Fields.ofEntries entries)) := by
  have hfold : ∀ fields : Fields, IsMadeOf kind (.object fields) →
      IsMadeOf kind
        (.object (entries.foldl (fun fields e => Fields.put e.1 e.2 fields) fields)) := by
    induction entries with
    | nil => exact fun _ h => h
    | cons entry rest ih =>
        intro fields h
        obtain ⟨name, hname⟩ := hkeys entry List.mem_cons_self
        rw [List.foldl_cons, hname]
        exact ih (fun e he => hkeys e (List.mem_cons_of_mem _ he))
          (fun e he => hvalues e (List.mem_cons_of_mem _ he)) _
          (h.put name (hvalues entry List.mem_cons_self))
  exact hfold [] (.object (by simp) .nil)

end Document.IsMadeOf

end ServiceShell
