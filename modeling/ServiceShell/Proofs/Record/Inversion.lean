import ServiceShell.Record.Scalar

/-!
# Records that were read

A reading gives a value only if each of its parts does.  So a record that was read tells of each of
its fields what it was read from: the value that stands there, or the default.

Main results:

- Theorems `Reading.map_eq_read_iff` and `Reading.seq_eq_read_iff`: the parts of what was read.
- Definition `IsTaken`: a value was read from a document, or is the default without one.
- Theorem `fieldD_eq_read_iff`: what a field was read from.
-/

namespace ServiceShell.Record

variable {α β : Type}

namespace Reading

/-! ## Parts of readings -/

theorem map_eq_read_iff {f : α → β} {r : Reading α} {b : β} :
    f <$> r = .read b ↔ ∃ a, r = .read a ∧ f a = b := by
  cases r with
  | read a =>
      rw [map_read]
      simp
  | refused issues =>
      constructor
      · intro h
        cases h
      · rintro ⟨a, h, -⟩
        cases h

theorem seq_eq_read_iff {f : Reading (α → β)} {r : Reading α} {b : β} :
    f <*> r = .read b ↔ ∃ g a, f = .read g ∧ r = .read a ∧ g a = b := by
  cases f with
  | read g =>
      cases r with
      | read a =>
          rw [seq_read]
          simp
      | refused issues =>
          constructor
          · intro h
            cases h
          · rintro ⟨_, _, _, h, _⟩
            cases h
  | refused issues =>
      constructor
      · intro h
        cases r <;> cases h
      · rintro ⟨_, _, h, _⟩
        cases h

theorem under_eq_read_iff {name : String} {r : Reading α} {a : α} :
    under name r = .read a ↔ r = .read a := by
  cases r <;> simp [under]

theorem bind_eq_read_iff {r : Reading α} {f : α → Reading β} {b : β} :
    r.bind f = .read b ↔ ∃ a, r = .read a ∧ f a = .read b := by
  cases r <;> simp [bind]

theorem finish_eq_ok_iff {record : String} {r : Reading α} {a : α} :
    r.finish record = .ok a ↔ r = .read a := by
  cases r <;> simp [finish]

end Reading

/-! ## Scalars -/

theorem text_eq_read_iff {d : Document} {s : String} : text d = .read s ↔ d = .text s := by
  constructor
  · intro h
    unfold text at h
    split at h
    · cases h
      rfl
    · cases h
  · rintro rfl
    rfl

/-! ## Fields -/

/-- A value was read from a document; without one it is the default. -/
def IsTaken (reader : Document → Reading α) (default : α) : Option Document → α → Prop
  | some d, a => reader d = .read a
  | none, a => a = default

variable {reader : Document → Reading α} {default a b : α}

theorem fieldD_eq_read_iff {fields : Fields} {name : String} :
    fieldD fields name default reader = .read a ↔
      IsTaken reader default (Fields.get? name fields) a := by
  unfold fieldD IsTaken
  cases Fields.get? name fields with
  | none => simp [eq_comm]
  | some d => exact Reading.under_eq_read_iff

theorem record_eq_read_iff {name : String} {reader : Fields → Reading α} {d : Document} :
    record name reader d = .read a ↔ ∃ fields, d = .object fields ∧ reader fields = .read a := by
  cases d <;> simp [record, Reading.refuse]

/-- Only one value is taken. -/
theorem IsTaken.eq {d : Option Document} (ha : IsTaken reader default d a)
    (hb : IsTaken reader default d b) : a = b := by
  cases d with
  | none => exact Eq.trans ha (Eq.symm hb)
  | some d => exact Reading.read.inj (Eq.trans (Eq.symm ha) hb)

/-- Where a value is taken from a document or from another one below it, this one may be replaced by
one that gives the same value. -/
theorem IsTaken.or {above below other : Option Document}
    (h : IsTaken reader default (above.or below) a) (hbelow : IsTaken reader default below b)
    (hother : IsTaken reader default other b) : IsTaken reader default (above.or other) a := by
  cases above with
  | some d => exact h
  | none =>
      rw [Option.none_or] at h ⊢
      rw [h.eq hbelow]
      exact hother

end ServiceShell.Record
