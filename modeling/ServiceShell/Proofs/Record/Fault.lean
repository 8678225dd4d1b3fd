import Mathlib.Tactic.Push
import Mathlib.Tactic.SplitIfs
import ServiceShell.Proofs.Record.Inversion

/-!
# Readings that are given up

A record that is refused is told with all its issues, unless one of them is that a rule could not be
applied at all.  This module says where in a record such a fault comes from.

Main results:

- Definition `Reading.Faults`: whether a rule could not be applied in a reading.
- Theorems `Reading.faults_seq_iff` and `faults_fieldD_iff`: a record faults where a field does.
- Theorem `Reading.ruleFault?_eq_none_iff`: a refused record is told exactly where it does not fault.
-/

namespace ServiceShell.Record

variable {α β : Type}

namespace Reading

/-! ## Issues -/

/-- What is wrong with what was read. -/
def issues : Reading α → List Issue
  | .read _ => []
  | .refused issues => issues

@[simp] theorem issues_read (a : α) : (Reading.read a).issues = [] := rfl

@[simp] theorem issues_refuse (cause : Cause) : (refuse cause : Reading α).issues = [⟨[], cause⟩] :=
  rfl

@[simp] theorem issues_map (f : α → β) (r : Reading α) : (f <$> r).issues = r.issues := by
  cases r <;> rfl

@[simp] theorem issues_seq (f : Reading (α → β)) (r : Reading α) :
    (f <*> r).issues = f.issues ++ r.issues := by
  cases f <;> cases r
  · rfl
  · rfl
  · exact (List.append_nil _).symm
  · rfl

@[simp] theorem issues_under (name : String) (r : Reading α) :
    (under name r).issues = r.issues.map fun i => { i with path := name :: i.path } := by
  cases r <;> rfl

/-! ## Faults -/

/-- Whether a rule could not be applied to something that was to be read. -/
def Faults (r : Reading α) : Prop := ∃ i ∈ r.issues, ∃ fault, i.cause = .unchecked fault

@[simp] theorem not_faults_read (a : α) : ¬ (Reading.read a).Faults := by simp [Faults]

@[simp] theorem faults_refuse_iff {cause : Cause} :
    (refuse cause : Reading α).Faults ↔ ∃ fault, cause = .unchecked fault := by
  simp [Faults]

@[simp] theorem faults_map_iff {f : α → β} {r : Reading α} : (f <$> r).Faults ↔ r.Faults := by
  rw [Faults, issues_map, Faults]

/-- What is read in parts faults where a part does. -/
@[simp] theorem faults_seq_iff {f : Reading (α → β)} {r : Reading α} :
    (f <*> r).Faults ↔ f.Faults ∨ r.Faults := by
  simp only [Faults, issues_seq, List.mem_append, or_and_right, exists_or]

@[simp] theorem faults_under_iff {name : String} {r : Reading α} :
    (under name r).Faults ↔ r.Faults := by
  simp [Faults]

/-- A value that is checked after it was read faults in the check, if not before. -/
theorem faults_bind_iff {r : Reading α} {f : α → Reading β} :
    (r.bind f).Faults ↔ r.Faults ∨ ∃ a, r = .read a ∧ (f a).Faults := by
  cases r with
  | read a => simp
  | refused issues => simp [Reading.bind, Faults, Reading.issues]

/-- A record that is refused is told exactly where it does not fault. -/
theorem ruleFault?_eq_none_iff {record : String} {r : Reading α} {failure : Failure}
    (h : r.finish record = .error failure) : failure.ruleFault? = none ↔ ¬ r.Faults := by
  cases r with
  | read a => cases h
  | refused issues =>
      cases h
      rw [Failure.ruleFault?, List.findSome?_eq_none_iff, Faults]
      push Not
      refine forall₂_congr fun i _ => ?_
      cases i.cause <;> simp

end Reading

open Reading

/-! ## Readers -/

theorem not_faults_text (d : Document) : ¬ (text d).Faults := by
  unfold text
  split <;> simp

theorem not_faults_bareInteger (cs : List Char) : ¬ (bareInteger cs).Faults := by
  simp only [bareInteger]
  split_ifs <;> simp

/-- No rule is needed to read an integer. -/
theorem not_faults_integer (d : Document) : ¬ (integer d).Faults := by
  unfold integer
  split
  · simp
  · simp
  · unfold integerFromFloat
    split
    · simp
    · split
      · simp
      · split <;> simp
  · unfold integerFromText
    split
    · exact not_faults_bareInteger _
    · simp
  · simp

/-- No rule is needed to read a truth value. -/
theorem not_faults_boolean (d : Document) : ¬ (boolean d).Faults := by
  have hinteger : ∀ n, ¬ (booleanFromInteger n).Faults := by
    intro n
    unfold booleanFromInteger
    split_ifs <;> simp
  unfold boolean
  split
  · simp
  · split_ifs
    · exact hinteger _
    · simp
  · split
    · exact hinteger _
    · simp
  · simp only [booleanFromText]
    split_ifs <;> simp
  · simp

theorem not_faults_optional {reader : Document → Reading α} (h : ∀ d, ¬ (reader d).Faults)
    (d : Document) : ¬ (optional reader d).Faults := by
  unfold optional
  split
  · simp
  · rw [faults_map_iff]
    exact h _

/-! ## Fields -/

/-- A field faults where it is there and its reader does. -/
theorem faults_fieldD_iff {fields : Fields} {name : String} {default : α}
    {reader : Document → Reading α} :
    (fieldD fields name default reader).Faults ↔
      ∃ d, Fields.get? name fields = some d ∧ (reader d).Faults := by
  unfold fieldD
  cases Fields.get? name fields <;> simp

theorem not_faults_fieldD {fields : Fields} {name : String} {default : α}
    {reader : Document → Reading α} (h : ∀ d, ¬ (reader d).Faults) :
    ¬ (fieldD fields name default reader).Faults := by
  rw [faults_fieldD_iff]
  rintro ⟨d, -, hd⟩
  exact h d hd

/-- A record faults where it is an object and its fields do. -/
theorem faults_record_iff {name : String} {reader : Fields → Reading α} {d : Document} :
    (record name reader d).Faults ↔ ∃ fields, d = .object fields ∧ (reader fields).Faults := by
  cases d <;> simp [record]

end ServiceShell.Record
