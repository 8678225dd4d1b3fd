import Mathlib.Data.List.Forall2

/-!
# Steps that can fail

What is compiled from a model is put together by steps, each of which gives a value or ends the
work.  This module takes such work apart: it has given a value exactly when each step has.

Main results:

- Theorem `bind_eq_ok_iff`: two steps, one after the other.
- Theorem `ite_all_eq_ok_iff`: a step that is kept back unless each item of a list passes.
- Theorem `mapM_eq_ok_iff`: one step for each item of a list.
- Theorems `mapM_returns_iff` and `exists_item_of_mapM_eq_error`: when such work ends with values,
  and where it ends without them.
- Theorems `exists_value_of_mem` and `exists_item_of_mem`: each item has a value, and each value an
  item.
- Theorem `exists_mem_of_forall₂`: what stands beside an item in another list.
-/

namespace ServiceShell

variable {ε α β : Type}

/-- Work fails exactly when it gives no value. -/
theorem exists_error_iff {x : Except ε α} : (∃ e, x = .error e) ↔ ∀ a, x ≠ .ok a := by
  cases x with
  | error e => simp
  | ok a => simp

/-- Two steps give a value exactly when the first gives one from which the second gives it. -/
theorem bind_eq_ok_iff {x : Except ε α} {f : α → Except ε β} {b : β} :
    (x >>= f) = .ok b ↔ ∃ a, x = .ok a ∧ f a = .ok b := by
  cases x with
  | error e => simp [bind, Except.bind]
  | ok a => simp [bind, Except.bind]

/-- Two steps fail exactly when the first fails, or the second fails on its value. -/
theorem bind_eq_error_iff {x : Except ε α} {f : α → Except ε β} {e : ε} :
    (x >>= f) = .error e ↔ x = .error e ∨ ∃ a, x = .ok a ∧ f a = .error e := by
  cases x with
  | error e => simp [bind, Except.bind]
  | ok a => simp [bind, Except.bind]

theorem pure_eq_ok_iff {a b : α} : (pure a : Except ε α) = .ok b ↔ a = b := by
  simp [pure, Except.pure]

/-- A value that is worked on comes of a value. -/
theorem map_eq_ok_iff {x : Except ε α} {f : α → β} {b : β} :
    f <$> x = .ok b ↔ ∃ a, x = .ok a ∧ f a = b := by
  cases x with
  | error e => simp [Functor.map, Except.map]
  | ok a => simp [Functor.map, Except.map]

/-- A value that is worked on fails to come exactly when there is none. -/
theorem map_eq_error_iff {x : Except ε α} {f : α → β} {e : ε} :
    x.map f = .error e ↔ x = .error e := by
  cases x <;> simp [Except.map]

/-- Another way to tell an error changes no value. -/
theorem mapError_eq_ok_iff {δ : Type} {x : Except ε α} {f : ε → δ} {a : α} :
    x.mapError f = .ok a ↔ x = .ok a := by
  cases x <;> simp [Except.mapError]

/-- An error that is told in another way comes of an error. -/
theorem mapError_eq_error_iff {δ : Type} {x : Except ε α} {f : ε → δ} {e : δ} :
    x.mapError f = .error e ↔ ∃ e', x = .error e' ∧ f e' = e := by
  cases x <;> simp [Except.mapError]

/-- Work that asks something of each item of a list gives its value exactly when each item has
it. -/
theorem ite_all_eq_ok_iff {p : α → Bool} {items : List α} {value other : β} {e : ε} :
    (if items.all p then .ok value else .error e : Except ε β) = .ok other ↔
      (∀ item ∈ items, p item = true) ∧ other = value := by
  rw [← List.all_eq_true]
  cases items.all p with
  | true => simp [eq_comm]
  | false => simp

/-- A step for each item of a list gives values exactly when each item has the value in its
place. -/
theorem mapM_eq_ok_iff {f : α → Except ε β} {items : List α} {values : List β} :
    items.mapM f = .ok values ↔ items.map f = values.map .ok := by
  induction items generalizing values with
  | nil =>
      rw [List.mapM_nil, pure_eq_ok_iff]
      cases values <;> simp
  | cons item items ih =>
      simp only [List.mapM_cons, bind_eq_ok_iff, pure_eq_ok_iff, ih]
      cases values with
      | nil => simp
      | cons value values => simp

/-- A step for each item of a list gives values exactly when each item has the value beside it. -/
theorem mapM_eq_ok_iff_forall₂ {f : α → Except ε β} {items : List α} {values : List β} :
    items.mapM f = .ok values ↔
      List.Forall₂ (fun item value => f item = .ok value) items values := by
  rw [mapM_eq_ok_iff, ← List.forall₂_eq_eq_eq, List.forall₂_map_left_iff,
    List.forall₂_map_right_iff]

/-- A step for each item of a list gives values exactly when each item has one. -/
theorem mapM_returns_iff {f : α → Except ε β} {items : List α} :
    (∃ values, items.mapM f = .ok values) ↔ ∀ item ∈ items, ∃ value, f item = .ok value := by
  induction items with
  | nil => simp [pure_eq_ok_iff]
  | cons item items ih =>
      simp only [List.mapM_cons, bind_eq_ok_iff, pure_eq_ok_iff, List.forall_mem_cons, ← ih]
      constructor
      · rintro ⟨_, value, hvalue, values, hvalues, -⟩
        exact ⟨⟨value, hvalue⟩, values, hvalues⟩
      · rintro ⟨⟨value, hvalue⟩, values, hvalues⟩
        exact ⟨_, value, hvalue, values, hvalues, rfl⟩

/-- When a step for each item of a list fails, it has failed at an item. -/
theorem exists_item_of_mapM_eq_error {f : α → Except ε β} {items : List α} {e : ε}
    (h : items.mapM f = .error e) : ∃ item ∈ items, f item = .error e := by
  induction items with
  | nil => cases h
  | cons item items ih =>
      rw [List.mapM_cons, bind_eq_error_iff] at h
      rcases h with hfirst | ⟨value, -, hrest⟩
      · exact ⟨item, List.mem_cons_self, hfirst⟩
      · rw [bind_eq_error_iff] at hrest
        rcases hrest with hrest | ⟨values, -, hpure⟩
        · obtain ⟨other, hother, hfails⟩ := ih hrest
          exact ⟨other, List.mem_cons_of_mem _ hother, hfails⟩
        · cases hpure

/-! ## Items and their values -/

/-- Each item has a value. -/
theorem exists_value_of_mem {f : α → Except ε β} {items : List α} {values : List β}
    (h : items.map f = values.map .ok) {item : α} (hitem : item ∈ items) :
    ∃ value ∈ values, f item = .ok value := by
  have hmem : f item ∈ items.map f := List.mem_map_of_mem hitem
  rw [h] at hmem
  obtain ⟨value, hvalue, heq⟩ := List.mem_map.mp hmem
  exact ⟨value, hvalue, heq.symm⟩

/-- Each value is that of an item. -/
theorem exists_item_of_mem {f : α → Except ε β} {items : List α} {values : List β}
    (h : items.map f = values.map .ok) {value : β} (hvalue : value ∈ values) :
    ∃ item ∈ items, f item = .ok value := by
  have hmem : (.ok value : Except ε β) ∈ values.map .ok := List.mem_map_of_mem hvalue
  rw [← h] at hmem
  exact List.mem_map.mp hmem

/-- Of two lists whose items stand side by side, each item of the second stands beside one of the
first. -/
theorem exists_mem_of_forall₂ {r : α → β → Prop} {items : List α} {values : List β}
    (h : List.Forall₂ r items values) {value : β} (hvalue : value ∈ values) :
    ∃ item ∈ items, r item value := by
  induction h with
  | nil => cases hvalue
  | @cons item first _ _ hfirst _ ih =>
      rcases List.mem_cons.mp hvalue with rfl | hrest
      · exact ⟨item, List.mem_cons_self, hfirst⟩
      · obtain ⟨other, hother, hvalue⟩ := ih hrest
        exact ⟨other, List.mem_cons_of_mem _ hother, hvalue⟩

end ServiceShell
