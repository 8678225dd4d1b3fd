import ServiceShell.Proofs.Schema.Time
import ServiceShell.Proofs.Schema.Validity
import ServiceShell.Proofs.Service.Operation
import ServiceShell.Proofs.Text.Naming
import ServiceShell.Schema.Record
import ServiceShell.Schema.Store

/-!
# The check of compiled schemas

A compiled schema has all that the check asks for but for one thing: an operation whose name has no
letter and no digit of ASCII has no hyphenated name, and the check asks for one.

Main results:

- Theorem `Schema.isOperation_encode_iff`: the record of an operation lacks nothing but a name.
- Theorem `Schema.refused_iff`: a schema is refused when it is saved exactly when it does not pass.
- Theorem `Schema.compiled_passes_iff_allNamed`: a compiled schema passes the check, and is not
  refused, exactly when the name of each operation has a letter or a digit.
-/

namespace ServiceShell

/-! ## Writing -/

namespace Job

/-- Only a file keeps a text from being written. -/
theorem trouble_of_writeText {path : Path} {text : String} {w later : Workspace}
    {trouble : Trouble} (h : (writeText path text).run w = (.error trouble, later)) :
    ∃ e, trouble = .unexpected (.file e) := by
  have hresult : Workspace.fileResult
      (w.files.writeWhole w.directory w.token Faults.none path text.toUTF8).1 =
        .error trouble := congrArg Prod.fst h
  unfold Workspace.fileResult at hresult
  cases hwhole : (w.files.writeWhole w.directory w.token Faults.none path text.toUTF8).1 with
  | ok value =>
      rw [hwhole] at hresult
      cases hresult
  | error e =>
      rw [hwhole] at hresult
      cases hresult
      exact ⟨e, rfl⟩

end Job

namespace Schema

/-! ## Records -/

/-- The record of an operation lacks nothing exactly when four of its texts are not empty. -/
theorem isOperation_encode_iff {o : OperationRecord} :
    IsOperation o.encode ↔
      o.name ≠ "" ∧ o.modelName ≠ "" ∧ o.httpMethod ≠ "" ∧ o.httpUri ≠ "" := by
  have hname : o.encode.getD "name" = .text o.name := Document.getD_of_lookup rfl
  have hmodelName : o.encode.getD "original_name" = .text o.modelName :=
    Document.getD_of_lookup rfl
  have hmethod : o.encode.getD "http_method" = .text o.httpMethod := Document.getD_of_lookup rfl
  have huri : o.encode.getD "http_uri" = .text o.httpUri := Document.getD_of_lookup rfl
  constructor
  · intro h
    have htruthy := h.isTruthy_eq
    simpa [requiredOperationFields, hname, hmodelName, hmethod, huri, Document.isTruthy,
      Scalar.isTruthy] using htruthy
  · intro h
    refine ⟨rfl, ?_⟩
    simpa [requiredOperationFields, hname, hmodelName, hmethod, huri, Document.isTruthy,
      Scalar.isTruthy] using h

/-- The record of a schema has what is relied on exactly when its service is named, it tells when
it was made, and its operations lack nothing. -/
theorem isSchema_encode_iff {s : Schema} :
    IsSchema s.encode ↔ s.service ≠ "" ∧ isTime s.generatedAt = true ∧
      ∀ o ∈ s.operations, IsOperation o.encode := by
  have hservice : s.encode.getD "service" = .text s.service := Document.getD_of_lookup rfl
  have htime : s.encode.getD "generated_at" = .text s.generatedAt := Document.getD_of_lookup rfl
  have hoperations : s.encode.getD "operations" =
      .list (s.operations.map OperationRecord.encode) := Document.getD_of_lookup rfl
  have hmetadata : s.encode.getD "metadata" =
      .ofPairs (s.metadata.map fun m => (m.1, .text m.2)) := Document.getD_of_lookup rfl
  constructor
  · intro h
    obtain ⟨name, hname, hne⟩ := h.service
    obtain ⟨text, htext, htimeText⟩ := h.generatedAt
    obtain ⟨items, hitems, hall⟩ := h.operations
    rw [hservice] at hname
    rw [htime] at htext
    rw [hoperations] at hitems
    cases hname
    cases htext
    cases hitems
    refine ⟨hne, htimeText, ?_⟩
    intro o ho
    exact hall o.encode (List.mem_map_of_mem ho)
  · rintro ⟨hne, htimeText, hall⟩
    refine ⟨rfl, ?_, ⟨_, hservice, hne⟩, ?_, ⟨_, htime, htimeText⟩, ⟨_, hoperations, ?_⟩⟩
    · intro field hfield
      simp only [requiredFields, List.mem_cons, List.not_mem_nil, or_false] at hfield
      rcases hfield with rfl | rfl | rfl | rfl | rfl | rfl <;>
        rw [Schema.encode, Document.getD_ofPairs] <;> rfl
    · rw [hmetadata]
      rfl
    · intro item hitem
      obtain ⟨o, ho, rfl⟩ := List.mem_map.mp hitem
      exact hall o ho

/-- A schema has a record when no shape is nested too deep for one. -/
theorem toRecord_eq_ok_iff {s : Schema} {d : Document} :
    s.toRecord = .ok d ↔ (∀ shape ∈ s.shapes, shape.isRecordable = true) ∧ d = s.encode :=
  ite_all_eq_ok_iff

/-! ## Compiled schemas -/

/-- The name of the service is not empty. -/
theorem serviceOf_ne_empty (model : Document) (service : Option String) :
    Signature.serviceOf model service ≠ "" := by
  have hderived : (Metadata.ofModel model).serviceName Metadata.defaultServiceName ≠ "" := by
    unfold Metadata.serviceName
    cases hfirst : Metadata.firstName? _ with
    | none => decide
    | some name =>
        have hne := List.find?_some hfirst
        exact of_decide_eq_true hne
  unfold Signature.serviceOf
  split
  · exact hderived
  · exact hderived
  · rename_i hne
    exact hne

/-- A schema that is compiled is made of the operations and errors of its model. -/
theorem ofModel_eq_ok {now : Instant} {service : Option String} {limit : Option Int}
    {model : Document} {schema : Schema} (h : ofModel now service limit model = .ok schema) :
    schema.service = Signature.serviceOf model service ∧ schema.generatedAt = timestamp now ∧
      ∃ operations, Operation.ofModel model limit = .ok operations ∧
        schema.operations = operations.map (recordOf (model.getD "pagination").fields) := by
  unfold ofModel at h
  split at h
  · cases h
  split at h
  · cases h
  rename_i operations hoperations
  split at h
  · cases h
  cases h
  exact ⟨rfl, rfl, operations, hoperations, rfl⟩

/-- Whether the name of each operation of a model has a letter or a digit of ASCII. -/
def AllNamed (model : Document) : Prop :=
  ∀ e ∈ Operation.entries model,
    ∃ c ∈ (Operation.entryName e.1 e.2).toList, c.isAlphanum = true

instance (model : Document) : Decidable (AllNamed model) :=
  @List.decidableBAll _ _ (fun _ => List.decidableBEx _ _) (Operation.entries model)

/-- The operation of an entry lacks nothing exactly when its name has a letter or a digit. -/
theorem isOperation_recordOf_iff {pagination : Fields} {key : String} {entry : Document}
    {input output : Shape} :
    IsOperation (recordOf pagination (Operation.ofShapes key entry input output)).encode ↔
      ∃ c ∈ (Operation.entryName key entry).toList, c.isAlphanum = true := by
  have hrequest := Operation.request_ne_empty key entry input output
  have hkebab : (Operation.ofShapes key entry input output).name ≠ "" ↔
      ∃ c ∈ (Operation.entryName key entry).toList, c.isAlphanum = true := by
    change Naming.kebab (Operation.entryName key entry) ≠ "" ↔ _
    rw [ne_eq, Naming.kebab_eq_empty_iff]
    simp
  rw [isOperation_encode_iff]
  constructor
  · rintro ⟨hname, -⟩
    exact hkebab.mp hname
  · rintro ⟨c, hc, halphanum⟩
    refine ⟨hkebab.mpr ⟨c, hc, halphanum⟩, ?_, hrequest⟩
    intro hempty
    change Operation.entryName key entry = "" at hempty
    rw [hempty] at hc
    cases hc

/-- A compiled schema passes the check exactly when each of its operations has a name with a letter
or a digit. -/
theorem isValid_encode_iff {now : Instant} {service : Option String} {limit : Option Int}
    {model : Document} {schema : Schema} (hnow : now.OnClock)
    (h : ofModel now service limit model = .ok schema) :
    isValid schema.encode = true ↔ AllNamed model := by
  obtain ⟨hservice, htime, operations, hoperations, hrecords⟩ := ofModel_eq_ok h
  rw [Operation.ofModel_eq_ok_iff] at hoperations
  have hrecord : isValid schema.encode = true ↔ ∀ o ∈ operations, IsOperation
      (recordOf (model.getD "pagination").fields o).encode := by
    rw [isValid_iff_isSchema, isSchema_encode_iff, hservice, htime, hrecords]
    simp [serviceOf_ne_empty, isTime_timestamp hnow]
  rw [hrecord]
  constructor
  · intro hall e he
    obtain ⟨o, ho, heq⟩ := exists_value_of_mem hoperations he
    obtain ⟨input, output, -, -, rfl⟩ := Operation.ofEntry_eq_ok_iff.mp heq
    exact isOperation_recordOf_iff.mp (hall _ ho)
  · intro hall o ho
    obtain ⟨e, he, heq⟩ := exists_item_of_mem hoperations ho
    obtain ⟨input, output, -, -, rfl⟩ := Operation.ofEntry_eq_ok_iff.mp heq
    exact isOperation_recordOf_iff.mpr (hall e he)

/-! ## Saving -/

/-- A schema is refused when it is saved exactly when it does not pass the check. -/
theorem refused_iff {document : Document} {directory : Path} {w : Workspace} :
    (∃ found, ((Job.saveSchema document directory true).run w).1 = .error (.schema found)) ↔
      isValid document = false := by
  constructor
  · rintro ⟨found, hfound⟩
    by_contra hvalid
    rw [Bool.not_eq_false] at hvalid
    -- What keeps a schema that passes from being saved is a file or the kind of the document.
    unfold Job.saveSchema at hfound
    rw [hvalid, Bool.not_true, Bool.and_false, if_neg Bool.false_ne_true] at hfound
    split at hfound
    · rw [Job.run_bind] at hfound
      split at hfound
      · cases hfound
      · rename_i trouble later hwrite
        cases hfound
        obtain ⟨e, he⟩ := Job.trouble_of_writeText hwrite
        cases he
    · cases hfound
  · intro hinvalid
    rw [Job.run_saveSchema_problems hinvalid]
    exact ⟨_, rfl⟩

/-- A compiled schema passes the check, without a word, exactly when the name of each operation has
a letter or a digit of ASCII, and it is refused when it is saved exactly when some name has none:
the check asks for a hyphenated name, and such a name is made of these. -/
theorem compiled_passes_iff_allNamed {now : Instant} {service : Option String}
    {limit : Option Int} {model : Document} {schema : Schema} (hnow : now.OnClock)
    (h : ofModel now service limit model = .ok schema) :
    (isValid schema.encode = true ∧ problemTexts schema.encode = [] ↔ AllNamed model) ∧
      ∀ directory w,
        (∃ found, ((Job.saveSchema schema.encode directory true).run w).1 =
          .error (.schema found)) ↔ ¬ AllNamed model := by
  have hvalid := isValid_encode_iff hnow h
  constructor
  · rw [problemTexts_eq_nil_iff, and_self, hvalid]
  · intro directory w
    rw [refused_iff, ← hvalid, Bool.not_eq_true]

/-- A model with one operation, whose name has neither a letter nor a digit. -/
def hyphenModel : Document := .ofPairs [("operations", .ofPairs [("---", .ofPairs [])])]

/-- A time that a clock can show. -/
def morning : Instant := ⟨⟨2024, 1, 2⟩, 3, 4, 5, 0, none⟩

theorem exists_schema_of_hyphenModel :
    ∃ schema, ofModel morning none none hyphenModel = .ok schema :=
  ⟨_, rfl⟩

/-- The schema of that model can be made, but it does not pass, and it is not saved. -/
theorem hyphenModel_refused : ∃ schema, ofModel morning none none hyphenModel = .ok schema ∧
    isValid schema.encode = false ∧
      ∀ directory w, ∃ found, ((Job.saveSchema schema.encode directory true).run w).1 =
        .error (.schema found) := by
  have hclock : morning.OnClock := by constructor <;> decide
  have hunnamed : ¬ AllNamed hyphenModel := by decide
  obtain ⟨schema, hschema⟩ := exists_schema_of_hyphenModel
  obtain ⟨hpasses, hrefused⟩ := compiled_passes_iff_allNamed hclock hschema
  refine ⟨schema, hschema, ?_, ?_⟩
  · by_contra hvalid
    rw [Bool.not_eq_false] at hvalid
    exact hunnamed (hpasses.mp ⟨hvalid, problemTexts_eq_nil_iff.mpr hvalid⟩)
  · intro directory w
    exact (hrefused directory w).mpr hunnamed

end Schema

end ServiceShell
