import Mathlib.Data.List.Basic
import ServiceShell.Document.Basic

/-!
# Fields of documents

A field is looked up by its name.  This module says where a value that is found stands, and what is
found after a field was put or in an object that is given by pairs.

Main results:

- Theorem `Fields.mem_of_get?`: a value that is found stands in the fields.
- Theorem `Fields.get?_perm`: the order of fields with distinct keys has no effect on what is found.
- Theorem `Fields.get?_put`: what is found after a field was put, whatever the other keys are.
- Theorem `Document.getD_ofPairs`: a field of an object that is given by pairs.
-/

namespace ServiceShell

/-! ## Keys -/

/-- Only the text itself names the field that a text names. -/
theorem Scalar.same_text_right (k : Scalar) (name : String) :
    k.same (.text name) = decide (k = .text name) := by
  cases k <;> simp [Scalar.same, Scalar.asNumber?]

/-! ## Fields -/

namespace Fields

/-- A definition that is found stands in the table under its name. -/
theorem mem_of_get? {name : String} {value : Document} {fields : Fields}
    (h : Fields.get? name fields = some value) : (.text name, value) ∈ fields := by
  induction fields with
  | nil => simp [Fields.get?] at h
  | cons entry rest ih =>
      obtain ⟨key, other⟩ := entry
      simp only [Fields.get?] at h
      split at h <;> rename_i hkey
      · simp only [Option.some.injEq] at h
        subst hkey
        subst h
        exact List.mem_cons_self
      · exact List.mem_cons_of_mem _ (ih h)

/-- A key of a table has a definition. -/
theorem exists_get?_of_mem_keys {name : String} {fields : Fields}
    (h : .text name ∈ Fields.keys fields) : ∃ value, Fields.get? name fields = some value := by
  induction fields with
  | nil => simp [Fields.keys] at h
  | cons entry rest ih =>
      obtain ⟨key, value⟩ := entry
      by_cases hkey : key = .text name
      · exact ⟨value, by simp [Fields.get?, hkey]⟩
      · have hrest : .text name ∈ Fields.keys rest := by
          rcases List.mem_cons.mp h with heq | hrest
          · exact absurd heq.symm hkey
          · exact hrest
        obtain ⟨found, hfound⟩ := ih hrest
        exact ⟨found, by simp [Fields.get?, hkey, hfound]⟩

/-- Under distinct keys, what stands in a table is found. -/
theorem get?_of_mem {name : String} {value : Document} {fields : Fields}
    (hnodup : (Fields.keys fields).Nodup) (h : (.text name, value) ∈ fields) :
    Fields.get? name fields = some value := by
  induction fields with
  | nil => cases h
  | cons entry rest ih =>
      obtain ⟨key, other⟩ := entry
      obtain ⟨hfresh, hrest⟩ := List.nodup_cons.mp hnodup
      rcases List.mem_cons.mp h with heq | hmem
      · cases heq
        exact if_pos rfl
      · have hkey : key ≠ .text name := by
          rintro rfl
          exact hfresh (List.mem_map.mpr ⟨_, hmem, rfl⟩)
        rw [Fields.get?, if_neg hkey]
        exact ih hrest hmem

/-- The order of fields with distinct keys has no effect on what is found. -/
theorem get?_perm {first second : Fields} (hperm : first.Perm second)
    (hnodup : (Fields.keys first).Nodup) (name : String) :
    Fields.get? name second = Fields.get? name first := by
  have hother : (Fields.keys second).Nodup := (hperm.map _).nodup_iff.mp hnodup
  apply Option.ext
  intro value
  constructor
  · intro h
    exact get?_of_mem hnodup (hperm.mem_iff.mpr (mem_of_get? h))
  · intro h
    exact get?_of_mem hother (hperm.mem_iff.mp (mem_of_get? h))

/-- What is found after a field was put: its value under its name, and what was there under any
other name. -/
theorem get?_put (name key : String) (value : Document) (fields : Fields) :
    get? key (put (.text name) value fields) =
      if key = name then some value else get? key fields := by
  induction fields with
  | nil => simp [put, get?, eq_comm]
  | cons field rest ih =>
      obtain ⟨k, other⟩ := field
      rw [put, Scalar.same_text_right]
      by_cases hk : k = .text name
      · subst hk
        by_cases hkey : key = name
        · simp [get?, hkey]
        · simp [get?, hkey, Ne.symm hkey]
      · rw [if_neg (by simpa using hk), get?, ih, get?]
        by_cases hkey : key = name
        · simp [hkey, hk]
        · simp [hkey]

theorem get?_pairs (key : String) (pairs : List (String × Document)) :
    Fields.get? key (pairs.map fun p => (.text p.1, p.2)) = pairs.lookup key := by
  induction pairs with
  | nil => rfl
  | cons p rest ih =>
      obtain ⟨name, value⟩ := p
      by_cases hname : name = key
      · simp [Fields.get?, hname]
      · have hother : (key == name) = false := by simpa using Ne.symm hname
        simp only [List.map_cons, Fields.get?, Scalar.text.injEq, hname, ↓reduceIte,
          List.lookup_cons, hother]
        exact ih

end Fields

/-! ## Objects -/

/-- A field of an object that is given by pairs. -/
theorem Document.getD_ofPairs (key : String) (pairs : List (String × Document)) :
    (Document.ofPairs pairs).getD key = (pairs.lookup key).getD .null := by
  simp only [Document.getD, Document.get?, Document.fields, Document.fields?, Document.ofPairs,
    Option.getD_some, Fields.get?_pairs]

/-- A field that is looked up among the pairs of an object. -/
theorem Document.getD_of_lookup {key : String} {pairs : List (String × Document)}
    {value : Document} (h : pairs.lookup key = some value) :
    (Document.ofPairs pairs).getD key = value := by
  rw [Document.getD_ofPairs, h]
  rfl

/-- Whether the text of a document is as wanted. -/
theorem Document.any_text?_iff {d : Document} {wanted : String → Bool} :
    d.text?.any wanted = true ↔ ∃ text, d = .text text ∧ wanted text = true := by
  constructor
  · intro h
    unfold Document.text? at h
    split at h
    · exact ⟨_, rfl, h⟩
    · cases h
  · rintro ⟨text, rfl, hwanted⟩
    exact hwanted

end ServiceShell
