import ServiceShell.Command.Inspect
import ServiceShell.Proofs.Command.Steps
import ServiceShell.Proofs.Schema.Agreement
import ServiceShell.Proofs.Shape.MemberNames
import ServiceShell.Proofs.Shape.Termination
import ServiceShell.Proofs.Shape.Tree
import ServiceShell.Proofs.Signature.Output

/-!
# The columns that are shown for an output

Two parts of the program look for the one list of data in an output.  The signature asks the
pagination descriptor and leaves out lists whose names have to do with pages; the table of columns
counts all lists.  So the columns that are shown are not always those of what a command returns.

Main results:

- Definition `ColumnsPart`: the ways in which the two come apart.
- Theorem `onlyList?_eq_some_iff`: which list the table of columns is about.
- Theorem `Signature.shownShape_eq_returnedShape_iff`: when both are about the same.
- Theorem `Signature.shownShape_ne_returnedShape_iff`: how they come apart, where members have names
  of their own.
- Theorem `Action.run_inspect_columns`: what the command prints.
- Theorem `Action.shown_columns_are_returned_iff`: all that for the operations of a model.
-/

namespace ServiceShell

open Signature

/-! ## The lists of an output -/

/-- The members of an output that are lists. -/
def listMembers (output : Shape) : List (Member Shape) := output.members.filter (·.shape.isList)

/-- The shape whose columns are shown for an output. -/
def shownShape (output : Shape) : Shape := (onlyList? output).getD output

section Lists

variable {output : Shape} {m : Member Shape}

theorem mem_listMembers_iff :
    m ∈ listMembers output ↔ m ∈ output.members ∧ m.shape.isList = true :=
  List.mem_filter

/-- The table of columns is about a list exactly when the output has this list and no other. -/
theorem onlyList?_eq_some_iff {shape : Shape} :
    onlyList? output = some shape ↔ ∃ m, listMembers output = [m] ∧ m.shape = shape := by
  have hlists : (output.members.map Member.shape).filter Shape.isList =
      (listMembers output).map Member.shape := List.filter_map
  rw [onlyList?, hlists]
  constructor
  · intro h
    split at h
    · rename_i only honly
      cases h
      exact List.map_eq_singleton_iff.mp honly
    · cases h
  · rintro ⟨m, hm, rfl⟩
    rw [hm]
    rfl

theorem shownShape_of_listMembers_eq (h : listMembers output = [m]) :
    shownShape output = m.shape := by
  rw [shownShape, onlyList?_eq_some_iff.mpr ⟨m, h, rfl⟩]
  rfl

theorem shownShape_of_forall_ne (h : ∀ m, listMembers output ≠ [m]) :
    shownShape output = output := by
  have hnone : onlyList? output = none := by
    rw [← Option.not_isSome_iff_eq_none, Option.isSome_iff_exists]
    rintro ⟨shape, hshape⟩
    obtain ⟨m, hm, -⟩ := onlyList?_eq_some_iff.mp hshape
    exact h m hm
  rw [shownShape, hnone]
  rfl

/-- An output is none of its members. -/
theorem shape_ne_of_mem_members (hm : m ∈ output.members) : m.shape ≠ output := by
  intro heq
  have hless := Shape.sizeOf_lt_of_mem_children (Shape.mem_children_of_mem_members hm)
  rw [heq] at hless
  exact lt_irrefl _ hless

end Lists

/-! ## What a signature returns -/

namespace Signature

/-- The member that is returned in place of the output of an operation, by its signature. -/
def unwrappedMember? (s : Signature) (o : Operation) : Option (Member Shape) :=
  s.unwrapKey.bind (findMember? o.output.members)

/-- The shape that is returned: that of this member, or the output. -/
def returnedShape (s : Signature) (o : Operation) : Shape :=
  ((s.unwrappedMember? o).map Member.shape).getD o.output

section

variable {settings : GeneratorSettings} {service : String} {pagination : Pagination}
  {errors : List ErrorDescriptor} {o : Operation} {m : Member Shape}

/-- The member that is returned is the list that holds the data, where names are distinct. -/
theorem unwrappedMember?_eq_some_iff (hnodup : (o.output.members.map Member.name).Nodup) :
    (ofOperation settings service pagination errors o).unwrappedMember? o = some m ↔
      m ∈ o.output.members ∧ o.Unwraps settings pagination m.name := by
  simp only [unwrappedMember?, Option.bind_eq_some_iff, unwrapKey_eq_some_iff hnodup,
    findMember?_eq_some_iff hnodup]
  constructor
  · rintro ⟨key, hunwraps, hm, rfl⟩
    exact ⟨hm, hunwraps⟩
  · rintro ⟨hm, hunwraps⟩
    exact ⟨m.name, hunwraps, hm, rfl⟩

theorem mem_members_of_unwrappedMember? {s : Signature} (h : s.unwrappedMember? o = some m) :
    m ∈ o.output.members := by
  obtain ⟨key, -, hfind⟩ := Option.bind_eq_some_iff.mp h
  exact List.mem_of_find?_eq_some hfind

end

/-- The columns of the only list are those of what is returned exactly when this list is. -/
theorem shownShape_eq_returnedShape_of_one_iff {s : Signature} {o : Operation}
    {only : Member Shape} (hone : listMembers o.output = [only]) :
    shownShape o.output = s.returnedShape o ↔ s.unwrappedMember? o = some only := by
  obtain ⟨hmember, hlist⟩ := mem_listMembers_iff.mp (hone ▸ List.mem_singleton_self only)
  rw [shownShape_of_listMembers_eq hone, returnedShape]
  cases hfound : s.unwrappedMember? o with
  | none => simp [shape_ne_of_mem_members hmember]
  | some m =>
      -- A member with this shape is a list, and there is no other.
      have hsame : only.shape = m.shape ↔ m = only := by
        constructor
        · intro hshape
          have hm := mem_listMembers_iff.mpr
            ⟨mem_members_of_unwrappedMember? hfound, hshape ▸ hlist⟩
          rwa [hone, List.mem_singleton] at hm
        · rintro rfl
          rfl
      simp [hsame]

/-- The columns of an output without just one list are those of what is returned exactly when no
member is. -/
theorem shownShape_eq_returnedShape_of_several_iff {s : Signature} {o : Operation}
    (hseveral : ∀ m, listMembers o.output ≠ [m]) :
    shownShape o.output = s.returnedShape o ↔ s.unwrappedMember? o = none := by
  rw [shownShape_of_forall_ne hseveral, returnedShape]
  cases hfound : s.unwrappedMember? o with
  | none => simp
  | some m =>
      have hne := shape_ne_of_mem_members (mem_members_of_unwrappedMember? hfound)
      simp [hne.symm]

/-- The columns are those of the shape that is returned exactly when the output has one list only
and this is returned, or it has not just one list and nothing is returned in its place. -/
theorem shownShape_eq_returnedShape_iff (s : Signature) (o : Operation) :
    shownShape o.output = s.returnedShape o ↔
      (∃ m, listMembers o.output = [m] ∧ s.unwrappedMember? o = some m) ∨
        ((∀ m, listMembers o.output ≠ [m]) ∧ s.unwrappedMember? o = none) := by
  by_cases hone : ∃ m, listMembers o.output = [m]
  · obtain ⟨only, hone⟩ := hone
    rw [shownShape_eq_returnedShape_of_one_iff hone]
    simp [hone]
  · rw [not_exists] at hone
    rw [shownShape_eq_returnedShape_of_several_iff hone]
    simp [hone]

end Signature

/-! ## How the two come apart -/

/-- The ways in which the columns that are shown for an output are not those of what is returned. -/
inductive ColumnsPart (output : Shape) (pagination : Pagination) : Prop
  /-- The columns are those of the only list, but the output is returned: it refers back to itself,
  or the list has to do with pages and no descriptor names it. -/
  | whole {m : Member Shape} (hone : listMembers output = [m])
      (hkept : output.selfReferencing = true ∨
        Pagination.compact m.name ∈ pagingNames ∧ pagination.resultKey ≠ some (.one m.name)) :
      ColumnsPart output pagination
  /-- The columns are those of the output, but one of its lists is returned. -/
  | part {key : String} (hseveral : ∀ m, listMembers output ≠ [m])
      (hplain : output.selfReferencing = false)
      (hkey : IsDataKey output.members pagination key) : ColumnsPart output pagination

section Apart

variable {output : Shape} {pagination : Pagination} {m : Member Shape} {key : String}

/-- Only a record has members. -/
theorem Shape.eq_record_of_mem_members {s : Shape} (hm : m ∈ s.members) :
    ∃ info isException, s = .record info s.members s.selfReferencing isException := by
  cases s with
  | record info members refers isException => exact ⟨info, isException, rfl⟩
  | _ => cases hm

/-- The only list of an output holds the data exactly if the descriptor names it, or its name has
nothing to do with pages. -/
theorem isDataKey_iff_of_listMembers_eq (hone : listMembers output = [m]) :
    IsDataKey output.members pagination key ↔
      key = m.name ∧ (pagination.resultKey = some (.one m.name) ∨
        Pagination.compact m.name ∉ pagingNames) := by
  have hmem (other : Member Shape) :
      other ∈ output.members ∧ other.shape.isList = true ↔ other = m := by
    rw [← mem_listMembers_iff, hone, List.mem_singleton]
  obtain ⟨hm, hlist⟩ := (hmem m).mpr rfl
  have hnames {told : String} (h : NamesList output.members told) : told = m.name := by
    obtain ⟨other, hother, rfl, hotherList⟩ := h
    rw [(hmem other).mp ⟨hother, hotherList⟩]
  constructor
  · intro h
    obtain rfl := hnames h.namesList
    refine ⟨rfl, ?_⟩
    generalize hname : m.name = name at h
    cases h with
    | told hkey => exact .inl hkey
    | only _ hother hdata =>
        obtain rfl := (hmem _).mp ⟨hother, hdata.1⟩
        exact .inr hdata.2
  · rintro ⟨rfl, hnamed⟩
    by_cases htold : pagination.resultKey = some (.one m.name)
    · exact .told htold ⟨m, hm, rfl, hlist⟩
    · refine .only ?_ hm ⟨hlist, hnamed.resolve_left htold⟩ ?_
      · rintro told hkey hnamesList
        exact htold (hnames hnamesList ▸ hkey)
      · intro other hother hdata
        exact (hmem other).mp ⟨hother, hdata.1⟩

/-- Where lists are wanted, one is returned in place of an output with members unless this refers
back to itself. -/
theorem Operation.unwraps_iff {settings : GeneratorSettings} {o : Operation}
    (hwanted : settings.unwrapListOutputs = true)
    (houtput : o.outputShape = none → o.output.members = []) :
    o.Unwraps settings pagination key ↔
      o.output.selfReferencing = false ∧ IsDataKey o.output.members pagination key := by
  constructor
  · intro h
    obtain ⟨info, isException, hrecord⟩ := h.isRecord
    exact ⟨by rw [hrecord, Shape.selfReferencing], h.isDataKey⟩
  · rintro ⟨hplain, hkey⟩
    obtain ⟨m, hm, -⟩ := hkey.namesList
    obtain ⟨info, isException, hrecord⟩ := Shape.eq_record_of_mem_members hm
    rw [hplain] at hrecord
    refine ⟨hwanted, fun hnone => ?_, ⟨info, isException, hrecord⟩, hkey⟩
    rw [houtput hnone] at hm
    cases hm

theorem columnsPart_of_one_iff (hone : listMembers output = [m]) :
    ColumnsPart output pagination ↔
      output.selfReferencing = true ∨
        Pagination.compact m.name ∈ pagingNames ∧ pagination.resultKey ≠ some (.one m.name) := by
  constructor
  · rintro (⟨hother, hkept⟩ | ⟨hseveral⟩)
    · rw [hone] at hother
      cases hother
      exact hkept
    · exact absurd hone (hseveral m)
  · exact .whole hone

theorem columnsPart_of_several_iff (hseveral : ∀ m, listMembers output ≠ [m]) :
    ColumnsPart output pagination ↔
      output.selfReferencing = false ∧ ∃ key, IsDataKey output.members pagination key := by
  constructor
  · rintro (⟨hone, -⟩ | ⟨-, hplain, hkey⟩)
    · exact absurd hone (hseveral _)
    · exact ⟨hplain, _, hkey⟩
  · rintro ⟨hplain, key, hkey⟩
    exact .part hseveral hplain hkey

/-- Where lists are wanted, the columns that are shown are those of another shape than is returned
in just these two ways. -/
theorem Signature.shownShape_ne_returnedShape_iff {settings : GeneratorSettings}
    {service : String} {errors : List ErrorDescriptor} {o : Operation}
    (hwanted : settings.unwrapListOutputs = true)
    (houtput : o.outputShape = none → o.output.members = [])
    (hnodup : (o.output.members.map Member.name).Nodup) :
    shownShape o.output ≠
        (ofOperation settings service pagination errors o).returnedShape o ↔
      ColumnsPart o.output pagination := by
  have hreturned (m : Member Shape) :
      (ofOperation settings service pagination errors o).unwrappedMember? o = some m ↔
        m ∈ o.output.members ∧ o.output.selfReferencing = false ∧
          IsDataKey o.output.members pagination m.name := by
    rw [unwrappedMember?_eq_some_iff hnodup, Operation.unwraps_iff hwanted houtput]
  by_cases hone : ∃ m, listMembers o.output = [m]
  · obtain ⟨m, hone⟩ := hone
    have hm := (mem_listMembers_iff.mp (hone ▸ List.mem_singleton_self m)).1
    rw [ne_eq, shownShape_eq_returnedShape_of_one_iff hone, hreturned,
      isDataKey_iff_of_listMembers_eq hone, columnsPart_of_one_iff hone]
    simp only [hm, true_and, not_and, not_or, not_not, ne_eq]
    cases o.output.selfReferencing <;> simp [and_comm]
  · rw [not_exists] at hone
    rw [ne_eq, shownShape_eq_returnedShape_of_several_iff hone, columnsPart_of_several_iff hone,
      ← ne_eq, Option.ne_none_iff_exists']
    simp only [hreturned]
    constructor
    · rintro ⟨m, -, hplain, hkey⟩
      exact ⟨hplain, m.name, hkey⟩
    · rintro ⟨hplain, key, hkey⟩
      obtain ⟨m, hm, rfl, -⟩ := hkey.namesList
      exact ⟨m, hm, hplain, hkey⟩

end Apart

/-- An operation of a model that has no output has an output without members. -/
theorem Operation.members_output_of_ofModel {d : Document} {limit : Option Int}
    {operations : List Operation} (h : ofModel d limit = .ok operations) {o : Operation}
    (ho : o ∈ operations) (hnone : o.outputShape = none) : o.output.members = [] := by
  obtain ⟨entry, -, hentry⟩ := exists_item_of_mem (ofModel_eq_ok_iff.mp h) ho
  obtain ⟨input, output, -, houtput, rfl⟩ := ofEntry_eq_ok_iff.mp hentry
  change referenceName? (entry.2.getD "output") = none at hnone
  rw [hnone] at houtput
  cases houtput
  rfl

namespace Action

section

variable {source : String} {s : Scene} {settings : Settings} {d : Document}
  {made : List Signature} {operations : List Operation} {o : Operation} {name : String}
  {read loaded : Workspace}

/-- What the command prints: the columns of the operation with the name. -/
theorem run_inspect_columns (hsettings : (Job.settings {}).run s.workspace = (.ok settings, read))
    (hmodel : (Job.modelWith source none).run read = (.ok d, loaded))
    (hshows : s.shows .debug (loadedText source) = true)
    (hoperations : Operation.ofModel d settings.generator.maxDepth = .ok operations)
    (hfind : Operation.find? operations name = some o) (format : Format) :
    (inspect format source (.columns name)).run s =
      (.ok (), { s with
        workspace := loaded
        events := s.events ++ [.remark .debug (loadedText source)]
          ++ (operationNotices d operations).map .notice
          ++ ((columnTable o.output).linesIn format).map .data }) := by
  refine run_bind_eq_ok_iff.mpr ⟨settings, _, run_perform_eq_ok_iff.mpr ⟨read, hsettings, rfl⟩, ?_⟩
  refine run_bind_eq_ok_iff.mpr ⟨d, _, run_model_eq_ok_iff.mpr ⟨loaded, hmodel, hshows, rfl⟩, ?_⟩
  exact run_bind_eq_ok_iff.mpr
    ⟨o, _, run_operation_eq_ok_iff.mpr ⟨operations, hoperations, hfind, rfl⟩, rfl⟩

/-- For each operation of a model that can be selected, the command prints a table of columns.  They
are those of what the signature of the operation returns exactly when the output has one list only
and the signature returns it, or it has not just one list and the signature returns no member.  If
lists are wanted and the members of the output have names of their own, the two come apart in just
two ways: the only list is kept inside an output that refers back to itself, or for its name; or
there are other lists beside the one that is returned. -/
theorem shown_columns_are_returned_iff {service : Option String}
    (hsettings : (Job.settings {}).run s.workspace = (.ok settings, read))
    (hmodel : (Job.modelWith source none).run read = (.ok d, loaded))
    (hshows : s.shows .debug (loadedText source) = true)
    (hmade : Signature.ofModel settings.generator service settings.generator.workers d =
      .ok made) :
    ∃ batch operations, Batch.ofModel settings.generator service d = .ok batch ∧
      Operation.ofModel d settings.generator.maxDepth = .ok operations ∧
      made = operations.map batch.signatureOf ∧
      ∀ name o, Operation.find? operations name = some o →
        (∀ format, (inspect format source (.columns name)).run s =
          (.ok (), { s with
            workspace := loaded
            events := s.events ++ [.remark .debug (loadedText source)]
              ++ (operationNotices d operations).map .notice
              ++ ((columnTable o.output).linesIn format).map .data })) ∧
        outputColumns o.output = Column.ofShape (shownShape o.output) Column.defaultDepth ∧
        (shownShape o.output = (batch.signatureOf o).returnedShape o ↔
          (∃ m, listMembers o.output = [m] ∧ (batch.signatureOf o).unwrappedMember? o = some m) ∨
            ((∀ m, listMembers o.output ≠ [m]) ∧
              (batch.signatureOf o).unwrappedMember? o = none)) ∧
        (settings.generator.unwrapListOutputs = true →
          (o.output.members.map Member.name).Nodup →
          (shownShape o.output ≠ (batch.signatureOf o).returnedShape o ↔
            ColumnsPart o.output (batch.signatureOf o).pagination)) := by
  rw [ofModel_eq_ofModelIn, ofModelIn_eq_ok_iff_operations (List.Perm.refl _)] at hmade
  obtain ⟨batch, operations, hbatch, hoperations, -, hsignatures⟩ := hmade
  refine ⟨batch, operations, hbatch, hoperations, hsignatures, fun name o hfind => ?_⟩
  have ho : o ∈ operations := List.mem_of_find?_eq_some hfind
  have hsame : batch.settings = settings.generator := by
    obtain ⟨-, errors, -, rfl⟩ := Batch.ofModel_eq_ok_iff.mp hbatch
    rfl
  refine ⟨run_inspect_columns hsettings hmodel hshows hoperations hfind, rfl,
    shownShape_eq_returnedShape_iff _ o, fun hwanted hnodup => ?_⟩
  rw [← hsame] at hwanted
  exact shownShape_ne_returnedShape_iff hwanted
    (Operation.members_output_of_ofModel hoperations ho) hnodup

end

end Action

/-! ## A shelf with two lists -/

/-- Definitions of a shelf with two lists. -/
def shelfTable : List (String × Document) :=
  [("Shelf", recordDefinition [] [("Items", "Items"), ("Labels", "Labels")]),
    ("Items", textFields [("type", "list"), ("member", "Item")]),
    ("Item", recordDefinition [] [("Name", "Text")]),
    ("Labels", textFields [("type", "list"), ("member", "Text")]),
    ("Text", textFields [("type", "string")])]

/-- A model with one operation, which returns such a shelf; its items are the data. -/
def shelfModel : Document :=
  .ofPairs
    [("operations", .ofPairs [("ListItems", textFields [("output", "Shelf")])]),
      ("pagination", .ofPairs [("ListItems", textFields [("result_key", "Items")])]),
      ("shapes", .ofPairs shelfTable)]

theorem isMadeOf_shelfModel : shelfModel.IsMadeOf Json.IsWritable := by
  have htext (text : String) : Json.IsWritable (.text text) := trivial
  have htable : (Document.ofPairs shelfTable).IsMadeOf Json.IsWritable := by
    refine .ofPairs (by decide) ?_
    simp only [shelfTable, List.forall_mem_cons, List.not_mem_nil, false_implies, implies_true,
      and_true]
    exact ⟨isMadeOf_recordDefinition htext _ (by decide), isMadeOf_textFields htext (by decide),
      isMadeOf_recordDefinition htext _ (by decide), isMadeOf_textFields htext (by decide),
      isMadeOf_textFields htext (by decide)⟩
  have hentry (name value : String) :
      (Document.ofPairs [("ListItems", textFields [(name, value)])]).IsMadeOf Json.IsWritable :=
    .ofPairs (List.nodup_singleton _)
      (List.forall_mem_singleton.mpr (isMadeOf_textFields htext (List.nodup_singleton _)))
  refine .ofPairs (by decide) ?_
  simp only [List.forall_mem_cons, List.not_mem_nil, false_implies, implies_true, and_true]
  exact ⟨hentry "output" "Shelf", hentry "result_key" "Items", htable⟩

/-- The operation of that model. -/
def shelfOperation : Operation :=
  let text : Shape := .scalar { name := some "Text" } "string"
  let item : Shape := .record { name := some "Item" } [⟨{ name := "Name" }, text⟩] false false
  Operation.ofShapes "ListItems" (textFields [("output", "Shelf")]) .empty
    (.record { name := some "Shelf" }
      [⟨{ name := "Items" }, .list { name := some "Items" } item false⟩,
        ⟨{ name := "Labels" }, .list { name := some "Labels" } text false⟩] false false)

theorem ofModel_shelfModel : Operation.ofModel shelfModel (some 16) = .ok [shelfOperation] := by
  have houtput : Shape.resolve (Operation.shapeTable shelfModel) (some 16) (.text "Shelf") =
      .ok shelfOperation.output := by
    unfold Shape.resolve
    rw [← nestedResolver_eq_resolveAt (fun _ _ _ => .error ⟨"", []⟩) (by decide : _ < 5)]
    rfl
  have hentry : Operation.ofEntry "ListItems" (textFields [("output", "Shelf")])
      (Operation.shapeTable shelfModel) (some 16) = .ok shelfOperation :=
    Operation.ofEntry_eq_ok_iff.mpr ⟨_, _, rfl, houtput, rfl⟩
  rw [Operation.ofModel_eq_ok_iff]
  exact congrArg (fun made => [made]) hentry

/-- A scene with the model on the standard input. -/
def shelfScene : Scene :=
  { workspace := pipedWorkspace (Json.compact.write shelfModel ++ "\n") }

namespace Action

/-- The columns that are shown are those of the shelf, but its items are returned. -/
theorem shown_columns_are_returned_iff_shelfModel :
    ∃ batch later, Batch.ofModel {} none shelfModel = .ok batch ∧
      (inspect .plain inputSign (.columns "ListItems")).run shelfScene = (.ok (), later) ∧
      (outputColumns shelfOperation.output).map Column.name = ["items", "labels"] ∧
      (batch.signatureOf shelfOperation).unwrapKey = some "Items" ∧
      (Column.ofShape ((batch.signatureOf shelfOperation).returnedShape shelfOperation)
        Column.defaultDepth).map Column.name = ["name"] ∧
      ColumnsPart shelfOperation.output (batch.signatureOf shelfOperation).pagination := by
  obtain ⟨batch, hbatch, hkey, hreturned⟩ : ∃ batch,
      Batch.ofModel {} none shelfModel = .ok batch ∧
        (batch.signatureOf shelfOperation).unwrapKey = some "Items" ∧
        (Column.ofShape ((batch.signatureOf shelfOperation).returnedShape shelfOperation)
          Column.defaultDepth).map Column.name = ["name"] :=
    ⟨_, rfl, by decide +kernel, by decide +kernel⟩
  have hshown : (outputColumns shelfOperation.output).map Column.name = ["items", "labels"] := by
    decide +kernel
  have hmade : Signature.ofModel {} none 4 shelfModel =
      .ok [batch.signatureOf shelfOperation] := by
    rw [ofModel_eq_ofModelIn, ofModelIn_eq_ok_iff_operations (List.Perm.refl _)]
    exact ⟨batch, _, hbatch, ofModel_shelfModel, by decide, rfl⟩
  obtain ⟨found, operations, hfound, hoperations, -, hall⟩ :=
    shown_columns_are_returned_iff (s := shelfScene) (run_settings_default _)
      (run_modelWith_pipedWorkspace (modelOfInput_write _ isMadeOf_shelfModel)) rfl hmade
  obtain rfl := Except.ok.inj (hbatch.symm.trans hfound)
  obtain rfl := Except.ok.inj (ofModel_shelfModel.symm.trans hoperations)
  obtain ⟨hrun, -, -, hpart⟩ := hall "ListItems" shelfOperation rfl
  refine ⟨batch, _, hbatch, hrun .plain, hshown, hkey, hreturned, (hpart rfl (by decide)).mp ?_⟩
  -- Columns of one shape have the same names.
  intro hsame
  rw [← hsame] at hreturned
  exact absurd (hreturned.symm.trans hshown) (by decide)

end Action
end ServiceShell
