import Mathlib.Data.List.Forall2
import ServiceShell.Proofs.Document.Layered
import ServiceShell.Proofs.Schema.Compiled
import ServiceShell.Proofs.Shape.Termination

/-!
# Schemas of merged models

The descriptors of pages come from three sources: a document of their own that is laid over a model,
the pagination section of the model, and the names of members.  The first source with an entry for
an operation decides, and an entry that is no object, or an empty one, leaves the operation to the
names, whatever the model itself would have said.

Main results:

- Definition `OperationRecord.IsPagedBy`: the descriptor of an operation, given the entry for it.
- Definition `Schema.IsRepaged`: a schema is another one but for the descriptors.
- Theorem `layPagination_layPagination`: laying a mapping over a model twice changes nothing more.
- Theorem `Schema.merged_descriptors_are_laid_over`: what comes of a model over which a mapping is
  laid.
-/

namespace ServiceShell

/-! ## Merged models -/

section Models

variable {model pages : Fields}

/-- The entries of the pagination section of a model. -/
def ownPages (model : Fields) : Fields := ((Fields.get? "pagination" model).getD .null).fields

/-- The entry for an operation: that of the mapping, or else that of the model. -/
def entryFor? (model pages : Fields) (name : String) : Option Document :=
  (Fields.get? name pages).or (Fields.get? name (ownPages model))

theorem layPagination_eq (model pages : Fields) :
    layPagination model pages =
      Fields.put (.text "pagination") (.object (Fields.putAll (ownPages model) pages)) model :=
  rfl

/-- The pagination section of a merged model. -/
theorem ownPages_layPagination (model pages : Fields) :
    ownPages (layPagination model pages) = Fields.putAll (ownPages model) pages := by
  rw [ownPages, layPagination_eq, Fields.get?_put, if_pos rfl]
  rfl

/-- The other parts of a model are kept. -/
theorem getD_layPagination {key : String} (hkey : key ≠ "pagination") (model pages : Fields) :
    (Document.object (layPagination model pages)).getD key = (Document.object model).getD key := by
  change (Fields.get? key (layPagination model pages)).getD .null = _
  rw [layPagination_eq, Fields.get?_put, if_neg hkey]
  rfl

/-- Laying a mapping over a model twice changes nothing more. -/
theorem layPagination_layPagination (hpages : pages.IsMapping) (model : Fields) :
    layPagination (layPagination model pages) pages = layPagination model pages := by
  rw [layPagination_eq (layPagination model pages), ownPages_layPagination,
    Fields.putAll_putAll hpages, layPagination_eq, Fields.put_put]

/-- Where a mapping is laid over a model, an operation has the entry of the mapping, or else that of
the model. -/
theorem get?_ownPages_layPagination (hpages : pages.IsMapping) (model : Fields) (name : String) :
    Fields.get? name (ownPages (layPagination model pages)) = entryFor? model pages name := by
  rw [ownPages_layPagination, Fields.get?_putAll hpages]
  rfl

/-- Whether a model is another one with a pagination section of its own: the section stands in the
place of the old one, or comes last, and all other fields are as they were. -/
structure IsRepagedModel (model merged : Fields) : Prop where
  /-- The old section can be put back. -/
  restore : ∀ own, Fields.get? "pagination" model = some own →
    Fields.put (.text "pagination") own merged = model
  /-- A new section comes last. -/
  added : Fields.get? "pagination" model = none →
    ∃ added, merged = model ++ [(.text "pagination", added)]

theorem isRepagedModel_layPagination (model pages : Fields) :
    IsRepagedModel model (layPagination model pages) :=
  ⟨fun _ hown => Fields.put_put_of_get? hown _,
    fun hnone => ⟨_, Fields.put_of_get?_eq_none hnone _⟩⟩

end Models

/-! ## Descriptors -/

/-- Whether the descriptor of an operation is the one that the entry for it asks for. -/
inductive OperationRecord.IsPagedBy (entry : Option Document) (o : OperationRecord) : Prop where
  /-- Without an output there are no pages. -/
  | onePiece (hshape : o.outputShape = none) (hpages : o.pagination = .none)
  /-- An entry that is an object, and not empty, tells the pages. -/
  | told {fields : Fields} (hshape : o.outputShape ≠ none) (hentry : entry = some (.object fields))
      (hfields : fields ≠ []) (hpages : o.pagination = .ofEntry (.object fields))
  /-- Else the names of members tell them. -/
  | suggested {input output : Shape} (hshape : o.outputShape ≠ none)
      (huntold : ∀ fields, entry = some (.object fields) → fields = [])
      (hinput : o.input = some input) (houtput : o.output = some output)
      (hpages : o.pagination = .infer input output)

/-- A document is an object with fields, or it does not count as an entry. -/
theorem Document.exists_fields_or (d : Document) :
    (∃ fields, fields ≠ [] ∧ d = .object fields ∧ (d.isObject && d.isTruthy) = true) ∨
      (∀ fields, d = .object fields → fields = []) ∧ (d.isObject && d.isTruthy) = false := by
  cases d with
  | scalar value => exact .inr ⟨nofun, rfl⟩
  | list items => exact .inr ⟨nofun, rfl⟩
  | object fields =>
      cases fields with
      | nil =>
          refine .inr ⟨?_, rfl⟩
          rintro _ ⟨⟩
          rfl
      | cons field rest => exact .inl ⟨_, List.cons_ne_nil _ _, rfl, rfl⟩

namespace Schema

/-- An operation of a schema has the descriptor that the entry for it asks for. -/
theorem isPagedBy_recordOf (pages : Fields) (o : Operation) :
    (recordOf pages o).IsPagedBy (Fields.get? o.modelName pages) := by
  have hpages : (recordOf pages o).pagination =
      Pagination.detect o ((Fields.get? o.modelName pages).getD .null) := rfl
  by_cases hshape : o.outputShape = none
  · exact .onePiece hshape (by rw [hpages, Pagination.detect, hshape]; rfl)
  · have hsome : o.outputShape.isNone = false := by
      rw [Option.isNone_eq_false_iff, Option.isSome_iff_ne_none]
      exact hshape
    rw [Pagination.detect, hsome, if_neg Bool.false_ne_true] at hpages
    cases hentry : Fields.get? o.modelName pages with
    | none =>
        rw [hentry] at hpages
        exact .suggested hshape nofun rfl rfl hpages
    | some d =>
        rw [hentry, Option.getD_some] at hpages
        rcases d.exists_fields_or with ⟨fields, hne, rfl, hcounts⟩ | ⟨hempty, hcounts⟩
        · rw [hcounts, if_pos rfl] at hpages
          exact .told hshape rfl hne hpages
        · rw [hcounts, if_neg Bool.false_ne_true] at hpages
          refine .suggested hshape ?_ rfl rfl hpages
          rintro fields ⟨⟩
          exact hempty fields rfl

/-! ## Schemas -/

/-- Whether a schema is another one with descriptors that certain entries ask for. -/
structure IsRepaged (entryOf : String → Option Document) (before after : Schema) : Prop where
  /-- All but the operations is as it was. -/
  rest : after = { before with operations := after.operations }
  /-- Each operation is as it was but for its descriptor, which is that of its entry. -/
  operations : List.Forall₂
    (fun o o' => o' = { o with pagination := o'.pagination } ∧ o'.IsPagedBy (entryOf o'.modelName))
    before.operations after.operations

section Merged

variable {now : Instant} {service : Option String} {limit : Option Int} {model pages : Fields}

/-- A model and one over which a mapping is laid fail for the same reason, or come to schemas that
differ in the descriptors. -/
theorem ofModel_layPagination (hpages : pages.IsMapping) :
    (∃ e, ofModel now service limit (.object model) = .error e ∧
        ofModel now service limit (.object (layPagination model pages)) = .error e) ∨
      ∃ before after, ofModel now service limit (.object model) = .ok before ∧
        ofModel now service limit (.object (layPagination model pages)) = .ok after ∧
        IsRepaged (entryFor? model pages) before after := by
  have hoperations := getD_layPagination (by decide : "operations" ≠ "pagination") model pages
  have hshapes := getD_layPagination (by decide : "shapes" ≠ "pagination") model pages
  have hmetadata := getD_layPagination (by decide : "metadata" ≠ "pagination") model pages
  have hspelled : Metadata.isOverlong (.object (layPagination model pages)) =
      Metadata.isOverlong (.object model) := by
    rw [Metadata.isOverlong, hmetadata, ← Metadata.isOverlong]
  rw [ofModel, ofModel, hspelled]
  cases Metadata.isOverlong (.object model) with
  | true => exact .inl ⟨_, rfl, rfl⟩
  | false => ?_
  -- Of the merged model only the pagination section is looked at that the model does not have.
  simp only [Bool.false_eq_true, if_false, Operation.ofModel, Operation.entries,
    Operation.shapeTable, Signature.serviceOf, Metadata.ofModel, hoperations, hshapes, hmetadata]
  split
  · exact .inl ⟨_, rfl, rfl⟩
  split
  · exact .inl ⟨_, rfl, rfl⟩
  · refine .inr ⟨_, _, rfl, rfl, rfl, ?_⟩
    rw [List.forall₂_map_left_iff, List.forall₂_map_right_iff, List.forall₂_same]
    intro o _
    refine ⟨rfl, ?_⟩
    rw [← funext (get?_ownPages_layPagination hpages model)]
    exact isPagedBy_recordOf (ownPages (layPagination model pages)) o

/-- A mapping can be laid over every model.  The merged model comes to a schema exactly when the
model does, and fails for the same reason.  The two schemas differ in the descriptors only, and each
operation has the descriptor that its entry asks for, which is that of the mapping or else that of
the model.  Laying the mapping over the model once more changes nothing, and but for its pagination
section the merged model is the model itself, field by field. -/
theorem merged_descriptors_are_laid_over (hpages : pages.IsMapping) (model : Fields) :
    ∃ merged, mergePagination model (.object pages) = .ok merged ∧
      (∀ now service limit,
        (∃ e, ofModel now service limit (.object model) = .error e ∧
            ofModel now service limit (.object merged) = .error e) ∨
          ∃ before after, ofModel now service limit (.object model) = .ok before ∧
            ofModel now service limit (.object merged) = .ok after ∧
            IsRepaged (entryFor? model pages) before after) ∧
      mergePagination merged (.object pages) = .ok merged ∧
      IsRepagedModel model merged := by
  refine ⟨layPagination model pages, mergePagination_object model pages,
    fun now service limit => ofModel_layPagination hpages, ?_, isRepagedModel_layPagination _ _⟩
  rw [mergePagination_object, layPagination_layPagination hpages]

end Merged

/-! ## An entry that hides another -/

/-- A model with one operation, whose pagination section names the list with the data. -/
def pagedModel : Fields :=
  [(.text "operations", .ofPairs [("ListItems", .ofPairs [("output", .text "Page")])]),
    (.text "pagination", .ofPairs [("ListItems", .ofPairs [("result_key", .text "Items")])])]

/-- A mapping with an empty entry for that operation. -/
def emptyPages : Fields := [(.text "ListItems", .object [])]

theorem exists_schema_of_pagedModel :
    ∃ schema o, ofModel morning none none (.object pagedModel) = .ok schema ∧
      schema.operations = [o] ∧ o.modelName = "ListItems" ∧ o.outputShape = some "Page" ∧
      o.input = some .empty ∧ o.pagination.source = some .explicit := by
  obtain ⟨output, houtput⟩ : ∃ output, Shape.resolve [] none (.text "Page") = .ok output := by
    unfold Shape.resolve
    rw [← nestedResolver_eq_resolveAt (fun _ _ _ => .error ⟨"", []⟩) (by decide : _ < 1)]
    exact ⟨_, rfl⟩
  have hentry : Operation.ofEntry "ListItems" (.ofPairs [("output", .text "Page")]) [] none =
      .ok (.ofShapes "ListItems" (.ofPairs [("output", .text "Page")]) .empty output) :=
    Operation.ofEntry_eq_ok_iff.mpr ⟨_, _, rfl, houtput, rfl⟩
  have hoperations : Operation.ofModel (.object pagedModel) none =
      .ok [.ofShapes "ListItems" (.ofPairs [("output", .text "Page")]) .empty output] :=
    Operation.ofModel_eq_ok_iff.mpr (congrArg (fun made => [made]) hentry)
  rw [ofModel, hoperations]
  exact ⟨_, _, rfl, rfl, rfl, rfl, rfl, rfl⟩

/-- The empty entry hides that of the model, and the operation has no pages then. -/
theorem pagedModel_descriptors : emptyPages.IsMapping ∧ ∃ merged before after,
    mergePagination pagedModel (.object emptyPages) = .ok merged ∧
      ofModel morning none none (.object pagedModel) = .ok before ∧
      ofModel morning none none (.object merged) = .ok after ∧
      before.operations.map (·.pagination.source) = [some .explicit] ∧
      after.operations.map (·.pagination.source) = [none] := by
  have hpages : emptyPages.IsMapping := List.pairwise_singleton _ _
  obtain ⟨merged, hmerged, hschemas, -, -⟩ := merged_descriptors_are_laid_over hpages pagedModel
  obtain ⟨schema, o, hschema, hone, hname, hshape, hinput, hsource⟩ := exists_schema_of_pagedModel
  rcases hschemas morning none none with ⟨e, hfails, -⟩ | ⟨before, after, hbefore, hafter, hrepaged⟩
  · cases hschema.symm.trans hfails
  · cases hschema.symm.trans hbefore
    have hside := hrepaged.operations
    rw [hone, List.forall₂_cons_left_iff] at hside
    obtain ⟨o', others, ⟨heq, hpaged⟩, hothers, hafterOperations⟩ := hside
    rw [List.forall₂_nil_left_iff.mp hothers] at hafterOperations
    have hentry : entryFor? pagedModel emptyPages o'.modelName = some (.object []) := by
      rw [heq]
      dsimp only
      rw [hname]
      rfl
    have hbeforeSource : schema.operations.map (·.pagination.source) = [some .explicit] := by
      rw [hone, List.map_singleton, hsource]
    refine ⟨hpages, merged, _, after, hmerged, hschema, hafter, hbeforeSource, ?_⟩
    rw [hafterOperations, List.map_singleton]
    rw [hentry] at hpaged
    cases hpaged with
    | onePiece _ hnone =>
        rw [hnone]
        rfl
    | told _ hfields hne =>
        cases hfields
        exact absurd rfl hne
    | @suggested input output _ _ hsame _ hinferred =>
        -- An input without members does not ask for a page.
        have hinput' : o'.input = some .empty := by
          rw [heq]
          exact hinput
        cases hsame.symm.trans hinput'
        rw [hinferred]
        cases output <;> rfl

end Schema

end ServiceShell
