import ServiceShell.Proofs.Document.Made
import ServiceShell.Service.PaginationSection

/-!
# Fields laid over fields

The entries of a mapping are put over the fields of an object one after the other.  Each of them
then stands where its key leads, since no key leads to two of them, and all other fields are as they
were.

Main results:

- Definition `Fields.IsMapping`: no key leads to two fields.
- Theorem `Fields.exists_field?_putAll`: where the key of an entry leads, its value stands.
- Theorem `Fields.get?_putAll`: what a name leads to is the value of its entry, or what stood there.
- Theorem `Fields.putAll_putAll`: entries that are put twice change nothing more.
-/

namespace ServiceShell

/-! ## Keys -/

namespace Scalar

/-- Two keys that lead to different fields, whatever names them. -/
def Apart (a b : Scalar) : Prop := ∀ key : Scalar, key.same a = true → key.same b = false

theorem Apart.symm {a b : Scalar} (h : a.Apart b) : b.Apart a := by
  intro key hb
  by_contra ha
  rw [Bool.not_eq_false] at ha
  rw [h key ha] at hb
  cases hb

/-- A text names only the field with that text as its key. -/
theorem same_text_left (k : Scalar) (name : String) :
    (Scalar.text name).same k = decide (k = .text name) := by
  cases k <;> simp [same, asNumber?, eq_comm]

theorem apart_text {name : String} {key : Scalar} (h : key ≠ .text name) :
    key.Apart (.text name) := by
  intro other hother
  rw [same_text_right]
  refine decide_eq_false ?_
  rintro rfl
  rw [same_text_left] at hother
  exact h (of_decide_eq_true hother)

end Scalar

namespace Fields

variable {fields entries : Fields} {key other : Scalar} {value : Document} {name : String}

/-! ## One field -/

/-- The field that a key leads to. -/
def field? (key : Scalar) (fields : Fields) : Option (Scalar × Document) :=
  fields.find? fun e => e.1.same key

theorem field?_cons (k key : Scalar) (value : Document) (rest : Fields) :
    field? key ((k, value) :: rest) =
      if k.same key = true then some (k, value) else field? key rest := by
  unfold field?
  rw [List.find?_cons]
  cases k.same key <;> rfl

/-- What a name leads to. -/
theorem get?_eq_map_field? (name : String) (fields : Fields) :
    get? name fields = (field? (.text name) fields).map Prod.snd := by
  induction fields with
  | nil => rfl
  | cons field rest ih =>
      obtain ⟨key, value⟩ := field
      rw [get?, field?_cons, Scalar.same_text_right]
      by_cases hkey : key = .text name
      · simp [hkey]
      · simp [hkey, ih]

/-- A field that was put stands where its key leads. -/
theorem exists_field?_put (key : Scalar) (value : Document) (fields : Fields) :
    ∃ place, field? key (put key value fields) = some (place, value) := by
  induction fields with
  | nil => exact ⟨key, by rw [put, field?_cons, if_pos (by simp)]⟩
  | cons field rest ih =>
      obtain ⟨k, v⟩ := field
      rw [put]
      split <;> rename_i hk
      · exact ⟨k, by rw [field?_cons, if_pos hk]⟩
      · rw [field?_cons, if_neg hk]
        exact ih

/-- Where another key leads, the field is as it was. -/
theorem field?_put_of_apart (hapart : key.Apart other) (value : Document) (fields : Fields) :
    field? other (put key value fields) = field? other fields := by
  induction fields with
  | nil => rw [put, field?_cons, if_neg (by simp [hapart key key.same_self])]
  | cons field rest ih =>
      obtain ⟨k, v⟩ := field
      rw [put]
      split <;> rename_i hk
      · have hother : ¬ k.same other = true := by simp [hapart k hk]
        rw [field?_cons, field?_cons, if_neg hother, if_neg hother]
      · rw [field?_cons, field?_cons, ih]

/-- Putting a value where it stands changes nothing. -/
theorem put_eq_self {place : Scalar} (h : field? key fields = some (place, value)) :
    put key value fields = fields := by
  induction fields with
  | nil => cases h
  | cons field rest ih =>
      obtain ⟨k, v⟩ := field
      rw [field?_cons] at h
      rw [put]
      split <;> rename_i hk
      · rw [if_pos hk] at h
        cases h
        rfl
      · rw [if_neg hk] at h
        rw [ih h]

/-- Of two values that are put under one key, the second stays. -/
theorem put_put (key : Scalar) (first second : Document) (fields : Fields) :
    put key second (put key first fields) = put key second fields := by
  induction fields with
  | nil => simp [put]
  | cons field rest ih =>
      obtain ⟨k, v⟩ := field
      by_cases hk : k.same key = true
      · simp [put, hk]
      · simp [put, hk, ih]

/-- What stood under a name can be put back. -/
theorem put_put_of_get? {own : Document} (h : get? name fields = some own) (value : Document) :
    put (.text name) own (put (.text name) value fields) = fields := by
  rw [put_put]
  rw [get?_eq_map_field?, Option.map_eq_some_iff] at h
  obtain ⟨⟨place, _⟩, hfield, rfl⟩ := h
  exact put_eq_self hfield

/-- A field with a name that nothing stood under comes last. -/
theorem put_of_get?_eq_none (h : get? name fields = none) (value : Document) :
    put (.text name) value fields = fields ++ [(.text name, value)] := by
  apply put_of_notMem
  intro hmem
  obtain ⟨own, hown⟩ := exists_get?_of_mem_keys hmem
  rw [h] at hown
  cases hown

/-! ## Mappings -/

/-- Whether no key leads to two of some fields. -/
def IsMapping (fields : Fields) : Prop := (keys fields).Pairwise Scalar.Apart

theorem IsMapping.tail {entry : Scalar × Document} (h : IsMapping (entry :: fields)) :
    IsMapping fields :=
  (List.pairwise_cons.mp h).2

/-- The first key of a mapping leads to the first field only. -/
theorem IsMapping.apart_head {entry e : Scalar × Document} (h : IsMapping (entry :: fields))
    (he : e ∈ fields) : entry.1.Apart e.1 :=
  (List.pairwise_cons.mp h).1 _ (List.mem_map_of_mem he)

theorem putAll_cons (entry : Scalar × Document) (entries fields : Fields) :
    putAll fields (entry :: entries) = putAll (put entry.1 entry.2 fields) entries := rfl

/-- Where a key leads that leads to none of the entries, the field is as it was. -/
theorem field?_putAll_of_apart (hentries : ∀ e ∈ entries, e.1.Apart other) :
    field? other (putAll fields entries) = field? other fields := by
  induction entries generalizing fields with
  | nil => rfl
  | cons entry rest ih =>
      rw [putAll_cons, ih fun e he => hentries e (List.mem_cons_of_mem _ he),
        field?_put_of_apart (hentries entry List.mem_cons_self)]

/-- Where the key of an entry leads, its value stands. -/
theorem exists_field?_putAll (hmapping : IsMapping entries) (fields : Fields) :
    ∀ e ∈ entries, ∃ place, field? e.1 (putAll fields entries) = some (place, e.2) := by
  induction entries generalizing fields with
  | nil => exact List.forall_mem_nil _
  | cons entry rest ih =>
      rw [List.forall_mem_cons]
      refine ⟨?_, ih hmapping.tail _⟩
      -- The entries behind the first one leave its field alone.
      have hrest : ∀ e ∈ rest, e.1.Apart entry.1 := fun e he => (hmapping.apart_head he).symm
      rw [putAll_cons, field?_putAll_of_apart hrest]
      exact exists_field?_put _ _ _

/-- Entries that stand where their keys lead change nothing when they are put again. -/
theorem putAll_eq_self (h : ∀ e ∈ entries, ∃ place, field? e.1 fields = some (place, e.2)) :
    putAll fields entries = fields := by
  induction entries with
  | nil => rfl
  | cons entry rest ih =>
      rw [List.forall_mem_cons] at h
      obtain ⟨⟨place, hplace⟩, hrest⟩ := h
      rw [putAll_cons, put_eq_self hplace, ih hrest]

/-- Entries that are put twice change nothing more. -/
theorem putAll_putAll (hmapping : IsMapping entries) (fields : Fields) :
    putAll (putAll fields entries) entries = putAll fields entries :=
  putAll_eq_self (exists_field?_putAll hmapping fields)

/-- A name that leads to an entry leads to its value. -/
theorem get?_of_mem_mapping (hmapping : IsMapping entries) (h : (.text name, value) ∈ entries) :
    get? name entries = some value := by
  induction entries with
  | nil => cases h
  | cons entry rest ih =>
      obtain ⟨key, own⟩ := entry
      rcases List.mem_cons.mp h with heq | hrest
      · cases heq
        exact if_pos rfl
      · have hkey : key ≠ .text name := by
          rintro rfl
          have hsame := hmapping.apart_head hrest (.text name) (by simp)
          simp at hsame
        rw [get?, if_neg hkey]
        exact ih hmapping.tail hrest

/-- What a name leads to is the value of its entry, or what stood there if there is no entry. -/
theorem get?_putAll (hmapping : IsMapping entries) (name : String) (fields : Fields) :
    get? name (putAll fields entries) = (get? name entries).or (get? name fields) := by
  cases hentry : get? name entries with
  | some value =>
      obtain ⟨place, hplace⟩ := exists_field?_putAll hmapping fields _ (mem_of_get? hentry)
      rw [get?_eq_map_field?, hplace]
      rfl
  | none =>
      have hentries : ∀ e ∈ entries, e.1.Apart (.text name) := by
        intro e he
        apply Scalar.apart_text
        intro hkey
        obtain ⟨key, value⟩ := e
        dsimp only at hkey
        subst hkey
        rw [get?_of_mem_mapping hmapping he] at hentry
        cases hentry
      rw [get?_eq_map_field?, field?_putAll_of_apart hentries, ← get?_eq_map_field?, Option.none_or]

end Fields

end ServiceShell
