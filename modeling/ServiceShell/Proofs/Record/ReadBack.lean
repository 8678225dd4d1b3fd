import ServiceShell.Proofs.Document.Fields
import ServiceShell.Record.Decode
import ServiceShell.Record.Encode

/-!
# Records are read back

The record of a value is read as that value.  A field is read where the record has it; so each
reader has only to be told what stands in its fields, and shapes are read back along their tree.

Main results:

- Definition `Record.ReadsBack`: a reader that reads what a writer has written.
- Theorems `Record.field_pairs` and `Record.fieldD_pairs`: a field of an object given by pairs.
- Theorem `Shape.decode_encode`: shapes of every kind, however deep.
- Theorems `Pagination.decode_encode`, `ErrorDescriptor.decode_encode`, `Resource.decode_encode`:
  what is derived from a model.
-/

namespace ServiceShell

open Document Record

namespace Record

variable {α : Type}

/-! ## Parts of documents -/

/-- A reader reads what a writer has written. -/
def ReadsBack (write : α → Document) (read : Document → Reading α) : Prop :=
  ∀ a, read (write a) = .read a

/-- A required field of an object that is given by pairs. -/
theorem field_pairs {pairs : List (String × Document)} {name : String} {d : Document}
    (h : pairs.lookup name = some d) (reader : Document → Reading α) :
    field (pairs.map fun p => (.text p.1, p.2)) name reader = .under name (reader d) := by
  rw [field, Fields.get?_pairs, h]

/-- A field with a default of an object that is given by pairs. -/
theorem fieldD_pairs {pairs : List (String × Document)} {name : String} {d : Document}
    (h : pairs.lookup name = some d) (default : α) (reader : Document → Reading α) :
    fieldD (pairs.map fun p => (.text p.1, p.2)) name default reader = .under name (reader d) := by
  rw [fieldD, Fields.get?_pairs, h]

/-- The items of a list are read one by one. -/
theorem readItems_map {write : α → Document} {read : Document → Reading α}
    (h : ReadsBack write read) (index : Nat) (items : List α) :
    readItems read index (items.map write) = .read items := by
  induction items generalizing index with
  | nil => rfl
  | cons item items ih =>
      rw [List.map_cons, readItems, h item, ih]
      rfl

theorem list_map {write : α → Document} {read : Document → Reading α}
    (h : ReadsBack write read) (items : List α) :
    list read (.list (items.map write)) = .read items :=
  readItems_map h 0 items

@[simp] theorem list_ofTexts (texts : List String) :
    list text (ofTexts texts) = .read texts :=
  list_map text_text texts

/-- What is there is read in place of no value. -/
theorem optional_of_isNull_eq_false {d : Document} (hd : d.isNull = false)
    (read : Document → Reading α) : optional read d = some <$> read d := by
  unfold optional
  split
  · cases hd
  · rfl

@[simp] theorem optional_null (read : Document → Reading α) : optional read .null = .read none :=
  rfl

@[simp] theorem optional_ofTexts (texts : List String) :
    optional (list text) (ofTexts texts) = .read (some texts) := by
  rw [optional_of_isNull_eq_false rfl, list_ofTexts, Reading.map_read]

@[simp] theorem optional_ofText? (s : Option String) :
    optional text (ofText? s) = .read s := by
  cases s <;> rfl

@[simp] theorem optional_encodeInt? (n : Option Int) :
    optional integer (encodeInt? n) = .read n := by
  cases n <;> rfl

@[simp] theorem optional_encodeNumber? (n : Option Number) :
    optional number (encodeNumber? n) = .read n := by
  cases n with
  | none => rfl
  | some n => cases n <;> rfl

end Record

/-! ## Shapes -/

@[simp] theorem Constraints.decode_encode (c : Constraints) : decode c.encode = .read c := by
  obtain ⟨min, max, pattern, choices⟩ := c
  simp only [decode, encode, ofPairs, record]
  rw [fieldD_pairs rfl, fieldD_pairs rfl, fieldD_pairs rfl, fieldD_pairs rfl]
  cases choices with
  | none =>
      simp only [optional_encodeNumber?, optional_ofText?, optional_null, Reading.under_read,
        Reading.map_read, Reading.seq_read]
  | some choices =>
      simp only [optional_encodeNumber?, optional_ofText?, optional_ofTexts, Reading.under_read,
        Reading.map_read, Reading.seq_read]

/-- The attributes of a shape are read from any object that begins with them. -/
theorem ShapeInfo.decode_encode (i : ShapeInfo) (rest : List (String × Document)) :
    decode ((i.encode ++ rest).map fun p => (.text p.1, p.2)) = .read i := by
  simp only [decode, encode, List.cons_append, List.nil_append]
  rw [fieldD_pairs rfl, fieldD_pairs rfl, fieldD_pairs rfl]
  simp only [optional_ofText?, text_text, Constraints.decode_encode, Reading.under_read,
    Reading.map_read, Reading.seq_read]

/-- The kind of a shape tells how it is read. -/
theorem Shape.decode_scalar {fields : Fields}
    (hkind : Fields.get? "kind" fields = some (.text "scalar")) :
    decode (.object fields) =
      scalar <$> ShapeInfo.decode fields <*> field fields "type_name" text := by
  rw [decode, hkind]
  rfl

theorem Shape.decode_choice {fields : Fields}
    (hkind : Fields.get? "kind" fields = some (.text "enum")) :
    decode (.object fields) =
      choice <$> ShapeInfo.decode fields
        <*> fieldD fields "choices" [] (Record.list Record.text) := by
  rw [decode, hkind]
  rfl

theorem Shape.decode_record {fields : Fields} {items : List Document}
    (hkind : Fields.get? "kind" fields = some (.text "structure"))
    (hmembers : Fields.get? "members" fields = some (.list items)) :
    decode (.object fields) =
      record <$> ShapeInfo.decode fields <*> .under "members" (decodeMembers items)
        <*> fieldD fields "self_referencing" false boolean
        <*> fieldD fields "exception" false boolean := by
  rw [decode, hkind]
  simp only
  split <;> rename_i heq
  · rw [hmembers] at heq
    cases heq
  · rw [hmembers] at heq
    cases heq
    rfl
  · rename_i hlist
    rw [hmembers] at heq
    cases heq
    exact absurd rfl (hlist _)

theorem Shape.decode_list {fields : Fields}
    (hkind : Fields.get? "kind" fields = some (.text "list")) :
    decode (.object fields) =
      list <$> ShapeInfo.decode fields <*> decodeField fields "member"
        <*> fieldD fields "self_referencing" false boolean := by
  rw [decode, hkind]
  rfl

theorem Shape.decode_map {fields : Fields}
    (hkind : Fields.get? "kind" fields = some (.text "map")) :
    decode (.object fields) =
      map <$> ShapeInfo.decode fields <*> decodeField fields "key" <*> decodeField fields "value"
        <*> fieldD fields "self_referencing" false boolean := by
  rw [decode, hkind]
  rfl

theorem Shape.decode_any {fields : Fields}
    (hkind : Fields.get? "kind" fields = some (.text "any")) :
    decode (.object fields) =
      any <$> ShapeInfo.decode fields <*> fieldD fields "reason" "" text
        <*> fieldD fields "self_referencing" false boolean
        <*> fieldD fields "union" false boolean
        <*> fieldD fields "reference" none (optional text) := by
  rw [decode, hkind]
  rfl

/-- The shape in a field of an object that is given by pairs. -/
theorem decodeField_pairs {pairs : List (String × Document)} {name : String} {d : Document}
    (h : pairs.lookup name = some d) :
    decodeField (pairs.map fun p => (.text p.1, p.2)) name = .under name (Shape.decode d) := by
  rw [decodeField]
  split <;> rename_i heq
  · rw [Fields.get?_pairs, h] at heq
    cases heq
  · rw [Fields.get?_pairs, h] at heq
    cases heq
    rfl

/-- The attributes of a member are read where they stand. -/
theorem MemberInfo.decode_encode (i : MemberInfo) (shape : Document) :
    ∃ fields, i.encode shape = .object fields ∧ decode fields = .read i ∧
      decodeField fields "shape" = .under "shape" (Shape.decode shape) := by
  refine ⟨_, rfl, ?_, decodeField_pairs rfl⟩
  simp only [decode]
  rw [field_pairs rfl, fieldD_pairs rfl, fieldD_pairs rfl, fieldD_pairs rfl, fieldD_pairs rfl,
    fieldD_pairs rfl, fieldD_pairs rfl]
  simp only [text_text, boolean_bool, optional_ofText?, Reading.under_read, Reading.map_read,
    Reading.seq_read]

mutual

/-- A shape is read back from its record. -/
theorem Shape.decode_encode : ∀ s : Shape, Shape.decode s.encode = .read s
  | .scalar i type => by
      rw [Shape.encode, ofPairs, Shape.decode_scalar ((Fields.get?_pairs _ _).trans rfl),
        ShapeInfo.decode_encode, field_pairs rfl]
      rfl
  | .choice i choices => by
      rw [Shape.encode, ofPairs, Shape.decode_choice ((Fields.get?_pairs _ _).trans rfl),
        ShapeInfo.decode_encode, fieldD_pairs rfl, list_ofTexts]
      rfl
  | .record i members selfReferencing exception => by
      rw [Shape.encode, ofPairs, Shape.decode_record ((Fields.get?_pairs _ _).trans rfl)
        ((Fields.get?_pairs _ _).trans rfl), ShapeInfo.decode_encode, fieldD_pairs rfl,
        fieldD_pairs rfl, decodeMembers_encode members]
      rfl
  | .list i element selfReferencing => by
      rw [Shape.encode, ofPairs, Shape.decode_list ((Fields.get?_pairs _ _).trans rfl),
        ShapeInfo.decode_encode, decodeField_pairs rfl, fieldD_pairs rfl,
        Shape.decode_encode element]
      rfl
  | .map i key value selfReferencing => by
      rw [Shape.encode, ofPairs, Shape.decode_map ((Fields.get?_pairs _ _).trans rfl),
        ShapeInfo.decode_encode, decodeField_pairs rfl, decodeField_pairs rfl, fieldD_pairs rfl,
        Shape.decode_encode key, Shape.decode_encode value]
      rfl
  | .any i reason selfReferencing isUnion reference => by
      rw [Shape.encode, ofPairs, Shape.decode_any ((Fields.get?_pairs _ _).trans rfl),
        ShapeInfo.decode_encode, fieldD_pairs rfl, fieldD_pairs rfl, fieldD_pairs rfl,
        fieldD_pairs rfl, optional_ofText?]
      rfl

/-- Members are read back from their records. -/
theorem decodeMembers_encode : ∀ members : List (Member Shape),
    decodeMembers (encodeMembers members) = .read members
  | [] => by rw [encodeMembers, decodeMembers]
  | ⟨i, shape⟩ :: rest => by
      obtain ⟨fields, hfields, hinfo, hshape⟩ := i.decode_encode shape.encode
      rw [encodeMembers, hfields, decodeMembers, hinfo, hshape, Shape.decode_encode shape,
        decodeMembers_encode rest]
      rfl

end

/-- The record of a shape is an object. -/
theorem Shape.isNull_encode (s : Shape) : s.encode.isNull = false := by
  cases s <;> rw [Shape.encode] <;> rfl

/-! ## What is derived from a model -/

@[simp] theorem Fault.optional_decode (fault : Option Fault) :
    optional Fault.decode (ofText? (fault.map Fault.word)) = .read fault := by
  rcases fault with _ | fault
  · rfl
  · cases fault <;> rfl

theorem ErrorDescriptor.decode_encode (e : ErrorDescriptor) : decode e.encode = .read e := by
  simp only [decode, encode, ofPairs, record]
  rw [field_pairs rfl, fieldD_pairs rfl, fieldD_pairs rfl, fieldD_pairs rfl, fieldD_pairs rfl,
    fieldD_pairs rfl, fieldD_pairs rfl]
  simp only [text_text, boolean_bool, optional_ofText?, optional_encodeInt?, Fault.optional_decode,
    Reading.under_read, Reading.map_read, Reading.seq_read]

@[simp] theorem PageKey.optional_decode (key : Option PageKey) :
    optional PageKey.decode (encodePageKey? key) = .read key := by
  rcases key with _ | ⟨name⟩ | ⟨names⟩
  · rfl
  · rfl
  · change some <$> (PageKey.several <$> list text (ofTexts names)) = _
    rw [list_ofTexts]
    rfl

@[simp] theorem PageSource.optional_decode (source : Option PageSource) :
    optional PageSource.decode (ofText? (source.map PageSource.word)) = .read source := by
  rcases source with _ | source
  · rfl
  · cases source <;> rfl

@[simp] theorem Pagination.decode_encode (p : Pagination) : decode p.encode = .read p := by
  simp only [decode, encode, ofPairs, record]
  rw [fieldD_pairs rfl, fieldD_pairs rfl, fieldD_pairs rfl, fieldD_pairs rfl, fieldD_pairs rfl,
    fieldD_pairs rfl]
  simp only [boolean_bool, optional_ofText?, PageKey.optional_decode, PageSource.optional_decode,
    Reading.under_read, Reading.map_read, Reading.seq_read]

theorem Resource.decode_encode (r : Resource) : decode r.encode = .read r := by
  simp only [decode, encode, ofPairs, record]
  rw [field_pairs rfl, fieldD_pairs rfl]
  simp only [text_text, list_ofTexts, Reading.under_read, Reading.map_read, Reading.seq_read]

end ServiceShell
