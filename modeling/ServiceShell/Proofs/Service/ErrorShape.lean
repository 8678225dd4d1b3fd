import ServiceShell.Proofs.Result
import ServiceShell.Proofs.Text.Reference
import ServiceShell.Service.ErrorShape

/-!
# Which errors are described

A definition that is marked as an exception is described whatever it holds, but for two of its
fields: documentation that is no text, or a text that cannot be read, and a status that is infinite.
One such definition keeps all errors of its table from being described.

Main results:

- Theorem `ErrorDescriptor.ofDefinition_returns_iff`: when a definition is described.
- Theorem `ErrorDescriptor.errors_are_described_iff`: when the marked entries of a table are
  described, one by one and in order, and what it means when they are not.
-/

namespace ServiceShell

namespace ErrorDescriptor

/-! ## What can be wrong with a definition -/

/-- Whether a definition is an object with a marker of exceptions that counts as true. -/
def IsMarked (definition : Document) : Prop :=
  ∃ fields marker, definition = .object fields ∧
    Fields.get? "exception" fields = some marker ∧ marker.isTruthy = true

/-- Whether documentation is no text, but counts as true. -/
def IsNoText : Document → Prop
  | .text _ => False
  | d => d.isTruthy = true

/-- Whether documentation is a text in which, when the tags are gone, a reference by a number of
`count` digits is left, and these are too many. -/
def IsOverlong (count : Nat) : Document → Prop
  | .text s => Text.Entity.HasOverlong (Text.substitute Text.tag? s.toList) count
  | _ => False

/-- Whether a status is an infinite number. -/
def IsInfinite : Document → Prop
  | .float x => ∃ negative, Decimal.Parts.ofFloat x = .infinite negative
  | _ => False

/-- What is wrong with a definition that is refused. -/
def Refusal.Holds (definition : Document) : Refusal → Prop
  | documentation => IsNoText (definition.getD "documentation")
  | digits count => IsOverlong count (definition.getD "documentation")
  | status => ∃ entry, definition.getD "error" = .object entry ∧
      IsInfinite (Document.getD (.object entry) "httpStatusCode")

/-- The marker of exceptions is looked for in objects only. -/
theorem isException_iff {definition : Document} :
    isException definition = true ↔ IsMarked definition := by
  constructor
  · intro h
    cases definition with
    | object fields =>
        change ((Fields.get? "exception" fields).getD .null).isTruthy = true at h
        cases hmarker : Fields.get? "exception" fields with
        | none =>
            rw [hmarker] at h
            cases h
        | some marker =>
            rw [hmarker] at h
            exact ⟨fields, marker, rfl, hmarker, h⟩
    | scalar value => cases h
    | list items => cases h
  · rintro ⟨fields, marker, rfl, hmarker, h⟩
    change ((Fields.get? "exception" fields).getD .null).isTruthy = true
    rw [hmarker]
    exact h

instance (definition : Document) : Decidable (IsMarked definition) :=
  decidable_of_iff _ isException_iff

/-! ## The fields that are read -/

/-- What is refused of documentation is wrong with it. -/
theorem holds_of_describe_eq_error {documentation : Document} {refusal : Refusal}
    (h : describe documentation = .error refusal) :
    refusal = .documentation ∧ IsNoText documentation ∨
      ∃ count, refusal = .digits count ∧ IsOverlong count documentation := by
  unfold describe at h
  split at h
  · split at h
    · cases h
    · rename_i count hcount
      cases h
      exact .inr ⟨count, rfl, Text.Entity.hasOverlong_of_overlong? hcount⟩
  · rename_i hnotText
    obtain ⟨htruthy, hrefusal⟩ := ite_eq_iff.mp h |>.resolve_right fun hother => nomatch hother.2
    cases hrefusal
    refine .inl ⟨rfl, ?_⟩
    unfold IsNoText
    split
    · exact absurd rfl (hnotText _)
    · exact htruthy

/-- Documentation is described exactly if it is missing, or a text that can be read. -/
theorem describe_returns_iff {documentation : Document} :
    (∃ text, describe documentation = .ok text) ↔
      ¬ IsNoText documentation ∧ ∀ count, ¬ IsOverlong count documentation := by
  constructor
  · rintro ⟨text, h⟩
    unfold describe at h
    split at h
    · split at h
      · rename_i hnone
        exact ⟨id, Text.Entity.overlong?_eq_none_iff.mp hnone⟩
      · cases h
    · rename_i hnotText
      obtain ⟨hfalse, -⟩ := ite_eq_iff.mp h |>.resolve_left fun hother => nomatch hother.2
      constructor
      · unfold IsNoText
        split
        · exact id
        · exact hfalse
      · intro count
        unfold IsOverlong
        split
        · exact absurd rfl (hnotText _)
        · exact id
  · rintro ⟨htext, hdigits⟩
    cases h : describe documentation with
    | ok text => exact ⟨text, rfl⟩
    | error refusal =>
        rcases holds_of_describe_eq_error h with ⟨-, hno⟩ | ⟨count, -, hlong⟩
        · exact absurd hno htext
        · exact absurd hlong (hdigits count)

/-- A status is refused exactly if it is infinite. -/
theorem status_eq_error_iff {d : Document} {refusal : Refusal} :
    status d = .error refusal ↔ refusal = .status ∧ IsInfinite d := by
  unfold status IsInfinite
  split
  · simp only [reduceCtorEq, and_false]
  · split
    · rename_i hparts
      simp only [hparts, Except.error.injEq, Decimal.Parts.infinite.injEq, exists_eq', and_true,
        eq_comm]
    · rename_i hfinite
      simp only [reduceCtorEq, not_exists.mpr hfinite, and_false]
  · simp only [reduceCtorEq, and_false]
  · simp only [reduceCtorEq, and_false]
  · rename_i hnotFloat _ _
    split
    · exact absurd rfl (hnotFloat _)
    · simp only [reduceCtorEq, and_false]

/-! ## Definitions and tables -/

/-- What keeps a definition from being described is wrong with it. -/
theorem holds_of_ofDefinition_eq_error {name : String} {definition : Document} {refusal : Refusal}
    (h : ofDefinition name definition = .error refusal) : refusal.Holds definition := by
  rw [ofDefinition, bind_eq_error_iff] at h
  rcases h with hstatus | ⟨_, -, hrest⟩
  · obtain ⟨rfl, hinfinite⟩ := status_eq_error_iff.mp hstatus
    split at hinfinite
    · rename_i entry hentry
      exact ⟨entry, hentry, hinfinite⟩
    · cases hinfinite
  · rw [bind_eq_error_iff] at hrest
    rcases hrest with hdescription | ⟨_, -, hpure⟩
    · rcases holds_of_describe_eq_error hdescription with ⟨rfl, htext⟩ | ⟨count, rfl, hlong⟩
      · exact htext
      · exact hlong
    · cases hpure

/-- A definition is described exactly if nothing that is refused holds of it. -/
theorem ofDefinition_returns_iff {name : String} {definition : Document} :
    (∃ d, ofDefinition name definition = .ok d) ↔
      ∀ refusal : Refusal, ¬ refusal.Holds definition := by
  constructor
  · rintro ⟨d, hd⟩ refusal hholds
    simp only [ofDefinition, bind_eq_ok_iff, pure_eq_ok_iff] at hd
    obtain ⟨found, hstatus, text, hdescription, -⟩ := hd
    obtain ⟨htext, hdigits⟩ := describe_returns_iff.mp ⟨text, hdescription⟩
    cases refusal with
    | documentation => exact htext hholds
    | digits count => exact hdigits count hholds
    | status =>
        obtain ⟨entry, hentry, hinfinite⟩ := hholds
        rw [hentry, status_eq_error_iff.mpr ⟨rfl, hinfinite⟩] at hstatus
        cases hstatus
  · intro hnone
    cases hd : ofDefinition name definition with
    | ok d => exact ⟨d, rfl⟩
    | error refusal => exact absurd (holds_of_ofDefinition_eq_error hd) (hnone refusal)

/-- The descriptor of a definition has the name that it was given. -/
theorem name_of_ofDefinition {name : String} {definition : Document} {d : ErrorDescriptor}
    (h : ofDefinition name definition = .ok d) : d.name = name := by
  simp only [ofDefinition, bind_eq_ok_iff, pure_eq_ok_iff] at h
  obtain ⟨_, -, _, -, rfl⟩ := h
  rfl

/-- The descriptors of a table are those of its marked entries. -/
theorem ofTable_eq (table : Fields) :
    ofTable table =
      (table.filter fun e => IsMarked e.2).mapM fun e => ofDefinition e.1.spelling e.2 := by
  rw [ofTable]
  congr 2
  funext e
  exact Bool.eq_iff_iff.mpr (by rw [isException_iff, decide_eq_true_iff])

/-- The errors of a table are described exactly if nothing that is refused holds of an entry that is
marked as an exception.  Then each of these entries has one descriptor, with its name, and they are
in the order of the table; otherwise what is told holds of one of these entries. -/
theorem errors_are_described_iff (table : Fields) :
    ((∃ descriptors, ofTable table = .ok descriptors) ↔
      ∀ e ∈ table, IsMarked e.2 → ∀ refusal : Refusal, ¬ refusal.Holds e.2) ∧
    (∀ descriptors, ofTable table = .ok descriptors →
      List.Forall₂ (fun e d => d.name = e.1.spelling ∧ ofDefinition e.1.spelling e.2 = .ok d)
        (table.filter fun e => IsMarked e.2) descriptors) ∧
    ∀ refusal, ofTable table = .error refusal →
      ∃ e ∈ table, IsMarked e.2 ∧ refusal.Holds e.2 := by
  rw [ofTable_eq]
  refine ⟨?_, ?_, ?_⟩
  · simp only [mapM_returns_iff, ofDefinition_returns_iff, List.mem_filter, decide_eq_true_eq,
      and_imp]
  · intro descriptors hdescriptors
    refine (mapM_eq_ok_iff_forall₂.mp hdescriptors).imp fun e d hd => ⟨?_, hd⟩
    exact name_of_ofDefinition hd
  · intro refusal hrefused
    obtain ⟨e, he, hrefusal⟩ := exists_item_of_mapM_eq_error hrefused
    rw [List.mem_filter, decide_eq_true_eq] at he
    exact ⟨e, he.1, he.2, holds_of_ofDefinition_eq_error hrefusal⟩

/-- A definition of an exception whose documentation is a number. -/
def numberedError : Document := .ofPairs [("exception", .bool true), ("documentation", .int 5)]

/-- A definition of an exception that says nothing else. -/
def bareError : Document := .ofPairs [("exception", .bool true)]

/-- A table with the first of them has no descriptors, not even of the second, which has one in a
table of its own. -/
theorem numberedError_refused :
    (¬ ∃ descriptors, ofTable [(.text "Bare", bareError), (.text "Numbered", numberedError)] =
      .ok descriptors) ∧
    ∃ descriptors, ofTable [(.text "Bare", bareError)] = .ok descriptors := by
  rw [(errors_are_described_iff _).1, (errors_are_described_iff _).1]
  constructor
  · intro hall
    have hmarked : IsMarked numberedError := by decide
    have hunreadable : Refusal.documentation.Holds numberedError := rfl
    exact hall (.text "Numbered", numberedError) (by simp) hmarked .documentation hunreadable
  · intro e he _ refusal hholds
    obtain rfl := List.mem_singleton.mp he
    cases refusal with
    | documentation | digits => cases hholds
    | status =>
        obtain ⟨entry, hentry, -⟩ := hholds
        cases hentry

end ErrorDescriptor

end ServiceShell
