import ServiceShell.Proofs.Service.Operation
import ServiceShell.Proofs.Shape.MemberNames
import ServiceShell.Proofs.Shape.Termination
import ServiceShell.Proofs.Signature.Output

/-!
# Inferred pages and the list that is returned

Where a model does not say how an output comes in pages, the names of members tell: of some kinds of
members the first one counts.  The data is the first list of the output, and it is returned in place
of the output whatever its name is.  So a list of page tokens or markers that stands before the data
is taken for the data.

Main results:

- Theorem `Pagination.infer?_eq_some_iff`: when an input and an output make an inferred page.
- Theorem `Pagination.detect_eq_ofInferred_iff`: when pages are inferred for an operation.
- Theorem `Operation.namesMembers_of_ofModel`: the members of an operation have distinct names.
- Theorem `Operation.unwraps_ofInferred_iff`: of an inferred page the first list is returned.
- Theorem `Signature.inferred_page_returns_first_list`: that for all operations of a model, and when
  what is returned has nothing to do with pages.
-/

namespace ServiceShell

/-! ## First members -/

/-- Whether a name is that of the first member of a kind. -/
def NamesFirst (kind : Member Shape → Prop) (members : List (Member Shape)) (name : String) : Prop :=
  ∃ before m after, members = before ++ m :: after ∧ (∀ other ∈ before, ¬ kind other) ∧ kind m ∧
    m.name = name

/-- The first member of a kind is a member of that kind. -/
theorem NamesFirst.exists_mem {kind : Member Shape → Prop} {members : List (Member Shape)}
    {name : String} (h : NamesFirst kind members name) :
    ∃ m ∈ members, m.name = name ∧ kind m := by
  obtain ⟨before, m, after, rfl, -, hkind, hname⟩ := h
  exact ⟨m, List.mem_append_right before List.mem_cons_self, hname, hkind⟩

/-- The search for a member finds the first one of a kind. -/
theorem map_name_find?_eq_some_iff {kind : Member Shape → Bool} {members : List (Member Shape)}
    {name : String} :
    (members.find? kind).map Member.name = some name ↔ NamesFirst (kind · = true) members name := by
  rw [Option.map_eq_some_iff]
  constructor
  · rintro ⟨m, hfind, hname⟩
    obtain ⟨hkind, before, after, hmembers, hbefore⟩ := List.find?_eq_some_iff_append.mp hfind
    exact ⟨before, m, after, hmembers, fun other hother => by simpa using hbefore other hother,
      hkind, hname⟩
  · rintro ⟨before, m, after, hmembers, hbefore, hkind, hname⟩
    refine ⟨m, List.find?_eq_some_iff_append.mpr ⟨hkind, before, after, hmembers, ?_⟩, hname⟩
    exact fun other hother => by simpa using hbefore other hother

/-- A text that is not empty. -/
theorem Operation.nonEmpty?_eq_some_iff {text : Option String} {found : String} :
    nonEmpty? text = some found ↔ text = some found ∧ found ≠ "" := by
  rw [nonEmpty?, Option.filter_eq_some_iff, decide_eq_true_iff]

/-! ## Inferred pages -/

namespace Pagination

/-- Whether a member has a compact name. -/
def HasCompactName (compactName : String) (m : Member Shape) : Prop := compact m.name = compactName

/-- The search for a compact name finds the first member that has it, whose name is not empty. -/
theorem nonEmpty?_findCompact?_eq_some_iff {members : List (Member Shape)} {compactName : String}
    (hne : compactName ≠ "") {name : String} :
    Operation.nonEmpty? (findCompact? members compactName) = some name ↔
      NamesFirst (HasCompactName compactName) members name := by
  have hfind : findCompact? members compactName = some name ↔
      NamesFirst (HasCompactName compactName) members name := by
    rw [findCompact?, map_name_find?_eq_some_iff]
    simp only [decide_eq_true_eq]
    rfl
  rw [Operation.nonEmpty?_eq_some_iff, hfind, and_iff_left_iff_imp]
  rintro hfirst rfl
  obtain ⟨m, -, hname, hcompact⟩ := hfirst.exists_mem
  rw [HasCompactName, hname] at hcompact
  exact hne (hcompact.symm.trans (by decide +kernel))

/-- Whether names are those by which an output is taken for a page of what an input asks for. -/
structure Inferred.NamesPage (input output : Shape) (i : Inferred) : Prop where
  /-- The input is a record. -/
  input_eq : ∃ info selfReferencing isException,
    input = .record info input.members selfReferencing isException
  /-- The output is a record. -/
  output_eq : ∃ info selfReferencing isException,
    output = .record info output.members selfReferencing isException
  /-- The first token of the input is the one that asks for a page. -/
  inputToken : NamesFirst (HasCompactName tokenName) input.members i.inputToken
  /-- The first token of the output is the one that asks for the next page. -/
  outputToken : NamesFirst (HasCompactName tokenName) output.members i.outputToken
  /-- The first limit of the input is the size of a page. -/
  limitKey : NamesFirst (HasCompactName limitName) input.members i.limitKey
  /-- The first list of the output is the data. -/
  resultKey : NamesFirst (·.shape.isList = true) output.members i.resultKey
  /-- The data has a name. -/
  resultKey_ne : i.resultKey ≠ ""

/-- Names are inferred exactly when they are those by which an output is taken for a page. -/
theorem infer?_eq_some_iff {input output : Shape} {i : Inferred} :
    infer? input output = some i ↔ i.NamesPage input output := by
  have htoken : tokenName ≠ "" := by decide
  have hlimit : limitName ≠ "" := by decide
  constructor
  · intro h
    unfold infer? at h
    split at h
    · simp only [Option.bind_eq_bind, Option.bind_eq_some_iff, Option.pure_def,
        Option.some.injEq] at h
      obtain ⟨inputToken, hinputToken, outputToken, houtputToken, limitKey, hlimitKey, resultKey,
        hresultKey, rfl⟩ := h
      rw [nonEmpty?_findCompact?_eq_some_iff htoken] at hinputToken houtputToken
      rw [nonEmpty?_findCompact?_eq_some_iff hlimit] at hlimitKey
      rw [Operation.nonEmpty?_eq_some_iff, map_name_find?_eq_some_iff] at hresultKey
      exact ⟨⟨_, _, _, rfl⟩, ⟨_, _, _, rfl⟩, hinputToken, houtputToken, hlimitKey, hresultKey.1,
        hresultKey.2⟩
    · cases h
  · rintro ⟨⟨info, selfReferencing, isException, hinput⟩, ⟨_, _, _, houtput⟩, hinputToken,
      houtputToken, hlimitKey, hresultKey, hne⟩
    rw [hinput, houtput, infer?, (nonEmpty?_findCompact?_eq_some_iff htoken).mpr hinputToken,
      (nonEmpty?_findCompact?_eq_some_iff htoken).mpr houtputToken,
      (nonEmpty?_findCompact?_eq_some_iff hlimit).mpr hlimitKey,
      Operation.nonEmpty?_eq_some_iff.mpr ⟨map_name_find?_eq_some_iff.mpr hresultKey, hne⟩]
    rfl

/-- Names are told by their descriptor. -/
theorem ofInferred_injective : Function.Injective ofInferred := by
  rintro ⟨_, _, _, _⟩ ⟨_, _, _, _⟩ h
  simpa [ofInferred] using h

/-- Names make the descriptor of an operation exactly when it has an output, its entry says nothing,
and they are those by which the output is taken for a page. -/
theorem detect_eq_ofInferred_iff {o : Operation} {entry : Document} {i : Inferred} :
    detect o entry = ofInferred i ↔
      o.outputShape ≠ Option.none ∧ (entry.isObject && entry.isTruthy) = false ∧
        i.NamesPage o.input o.output := by
  rw [← infer?_eq_some_iff]
  constructor
  · intro h
    unfold detect at h
    split at h <;> rename_i houtput
    · cases h
    · split at h <;> rename_i hentry
      · cases congrArg Pagination.source h
      · refine ⟨fun hnone => houtput (Option.isNone_iff_eq_none.mpr hnone),
          Bool.eq_false_iff.mpr hentry, ?_⟩
        unfold infer at h
        split at h <;> rename_i hinfer
        · rw [hinfer, ofInferred_injective h]
        · cases h
  · rintro ⟨houtput, hentry, hinfer⟩
    rw [detect, if_neg (mt Option.isNone_iff_eq_none.mp houtput), hentry, if_neg Bool.false_ne_true,
      infer, hinfer]

/-- A descriptor that is said to be inferred is made of names. -/
theorem exists_eq_ofInferred {o : Operation} {entry : Document}
    (h : (detect o entry).source = some .inferred) : ∃ i, detect o entry = ofInferred i := by
  unfold detect infer at h ⊢
  split_ifs at h ⊢
  · cases h
  · cases h
  · split at h
    · exact ⟨_, rfl⟩
    · cases h

/-- The token of an inferred page has to do with pages. -/
theorem Inferred.NamesPage.compact_outputToken_mem {input output : Shape} {i : Inferred}
    (h : i.NamesPage input output) : compact i.outputToken ∈ pagingNames := by
  obtain ⟨m, -, hname, hcompact⟩ := h.outputToken.exists_mem
  rw [← hname, hcompact]
  decide

end Pagination

/-! ## Members of operations -/

namespace Operation

/-- A record without members has distinct names. -/
theorem namesMembers_empty : Shape.empty.NamesMembers := by
  intro above t hdescent
  obtain ⟨-, rfl⟩ := hdescent.eq_of_children_eq_nil rfl
  exact List.nodup_nil

section Model

variable {kind : Scalar → Prop}

/-- The table of definitions of a model is made of what the model is made of. -/
theorem isMadeOf_shapeTable {model : Document} (hmodel : model.IsMadeOf kind) :
    (Document.object (shapeTable model)).IsMadeOf kind := by
  unfold shapeTable
  rcases hmodel.getD_cases "shapes" with hnull | hmade
  · rw [hnull]
    exact .object nofun .nil
  · exact hmade.object_fields

/-- The members of each record in the input and the output of an operation of a model have distinct
names. -/
theorem namesMembers_of_ofModel {model : Document} (hmodel : model.IsMadeOf kind)
    {limit : Option Int} {operations : List Operation}
    (hoperations : ofModel model limit = .ok operations) {o : Operation} (ho : o ∈ operations) :
    o.input.NamesMembers ∧ o.output.NamesMembers := by
  obtain ⟨entry, -, hentry⟩ := exists_item_of_mem (ofModel_eq_ok_iff.mp hoperations) ho
  apply input_output_of_ofEntry ?empty ?resolve hentry
  case empty => exact namesMembers_empty
  case resolve =>
    intro name shape hshape
    exact Shape.namesMembers_of_resolve (isMadeOf_shapeTable hmodel) hshape

end Model

/-! ## What is returned -/

/-- Of an inferred page the first list is returned, unless the page refers back to itself. -/
theorem unwraps_ofInferred_iff {settings : GeneratorSettings} {o : Operation}
    {i : Pagination.Inferred} (houtput : o.outputShape ≠ none) (hpage : i.NamesPage o.input o.output)
    {key : String} :
    o.Unwraps settings (.ofInferred i) key ↔
      settings.unwrapListOutputs = true ∧ o.output.selfReferencing = false ∧ key = i.resultKey := by
  have hlist : NamesList o.output.members i.resultKey := hpage.resultKey.exists_mem
  constructor
  · intro h
    obtain ⟨info, isException, hrecord⟩ := h.isRecord
    refine ⟨h.wanted, by rw [hrecord, Shape.selfReferencing], ?_⟩
    cases h.isDataKey with
    | told hkey =>
        cases hkey
        rfl
    | only huntold => exact absurd hlist (huntold i.resultKey rfl)
  · rintro ⟨hwanted, hself, rfl⟩
    obtain ⟨info, selfReferencing, isException, hrecord⟩ := hpage.output_eq
    rw [hrecord, Shape.selfReferencing] at hself
    subst hself
    exact ⟨hwanted, houtput, ⟨info, isException, hrecord⟩, .told rfl hlist⟩

end Operation

namespace Signature

/-- For each operation of a model whose objects have distinct texts as keys, and for which pages are
inferred: the names are those of the first tokens and limit of input and output, and of the first
list of the output.  That list is what each signature returns in place of an output that does not
refer back to itself, if lists are wanted.  So the data is another member than the token and no
signature returns what has to do with pages exactly when the name of the first list has nothing to do
with pages, or the output refers back to itself and its first list is not the token. -/
theorem inferred_page_returns_first_list {kind : Scalar → Prop} {model : Document}
    (hmodel : model.IsMadeOf kind) {limit : Option Int} {operations : List Operation}
    (hoperations : Operation.ofModel model limit = .ok operations) {o : Operation}
    (ho : o ∈ operations) {entry : Document}
    (hsource : (Pagination.detect o entry).source = some .inferred) :
    ∃ i, Pagination.detect o entry = .ofInferred i ∧ i.NamesPage o.input o.output ∧
      (∀ settings service errors key,
        (ofOperation settings service (.ofInferred i) errors o).unwrapKey = some key ↔
          settings.unwrapListOutputs = true ∧ o.output.selfReferencing = false ∧
            key = i.resultKey) ∧
      ((i.resultKey ≠ i.outputToken ∧ ∀ settings service errors key,
          (ofOperation settings service (.ofInferred i) errors o).unwrapKey = some key →
            Pagination.compact key ∉ pagingNames) ↔
        Pagination.compact i.resultKey ∉ pagingNames ∨
          o.output.selfReferencing = true ∧ i.resultKey ≠ i.outputToken) := by
  obtain ⟨i, hdetect⟩ := Pagination.exists_eq_ofInferred hsource
  obtain ⟨houtput, -, hpage⟩ := Pagination.detect_eq_ofInferred_iff.mp hdetect
  have hnodup := (Operation.namesMembers_of_ofModel hmodel hoperations ho).2.nodup
  have hunwrap (settings : GeneratorSettings) (service : String) (errors : List ErrorDescriptor)
      (key : String) : (ofOperation settings service (.ofInferred i) errors o).unwrapKey = some key ↔
        settings.unwrapListOutputs = true ∧ o.output.selfReferencing = false ∧
          key = i.resultKey :=
    (unwrapKey_eq_some_iff hnodup).trans (Operation.unwraps_ofInferred_iff houtput hpage)
  refine ⟨i, hdetect, hpage, hunwrap, ?_⟩
  constructor
  · rintro ⟨hne, hdata⟩
    cases hself : o.output.selfReferencing with
    | true => exact .inr ⟨rfl, hne⟩
    | false =>
        -- Lists are wanted unless the settings say otherwise, so the first one is returned.
        have hwanted : ({} : GeneratorSettings).unwrapListOutputs = true := rfl
        exact .inl (hdata {} "" [] i.resultKey
          ((hunwrap {} "" [] i.resultKey).mpr ⟨hwanted, hself, rfl⟩))
  · rintro (hdata | ⟨hself, hne⟩)
    · constructor
      · rintro heq
        exact hdata (heq ▸ hpage.compact_outputToken_mem)
      · intro settings service errors key hkey
        obtain ⟨-, -, rfl⟩ := (hunwrap settings service errors key).mp hkey
        exact hdata
    · refine ⟨hne, ?_⟩
      intro settings service errors key hkey
      obtain ⟨-, hplain, -⟩ := (hunwrap settings service errors key).mp hkey
      cases hself.symm.trans hplain

/-- The entry of an operation that asks for a page. -/
def tokensEntry : Document := textFields [("input", "Input"), ("output", "Page")]

/-- Pages with a list of tokens before the items. -/
def tokensTable : List (String × Document) :=
  [("Input", recordDefinition [] [("NextToken", "Text"), ("MaxResults", "Text")]),
    ("Page", recordDefinition [] [("NextToken", "Texts"), ("Items", "Texts")]),
    ("Texts", textFields [("type", "list"), ("member", "Text")]),
    ("Text", textFields [("type", "string")])]

/-- A model with one operation that asks for such a page. -/
def tokensModel : Document :=
  .ofPairs [("operations", .ofPairs [("ListItems", tokensEntry)]), ("shapes", .ofPairs tokensTable)]

theorem isMadeOf_tokensModel : tokensModel.IsMadeOf Json.IsParsed := by
  have htext (text : String) : Json.IsParsed (.text text) := trivial
  have htable : (Document.ofPairs tokensTable).IsMadeOf Json.IsParsed := by
    refine .ofPairs (by decide) ?_
    simp only [tokensTable, List.forall_mem_cons, List.not_mem_nil, false_implies, implies_true,
      and_true]
    exact ⟨isMadeOf_recordDefinition htext _ (by decide),
      isMadeOf_recordDefinition htext _ (by decide), isMadeOf_textFields htext (by decide),
      isMadeOf_textFields htext (by decide)⟩
  have hoperations : (Document.ofPairs [("ListItems", tokensEntry)]).IsMadeOf Json.IsParsed :=
    .ofPairs (by decide) (List.forall_mem_singleton.mpr (isMadeOf_textFields htext (by decide)))
  exact .ofPairs (by decide)
    (List.forall_mem_cons.mpr ⟨hoperations, List.forall_mem_singleton.mpr htable⟩)

/-- The operation of that model. -/
def tokensOperation : Operation :=
  let text : Shape := .scalar { name := some "Text" } "string"
  Operation.ofShapes "ListItems" tokensEntry
    (.record { name := some "Input" }
      [⟨{ name := "NextToken" }, text⟩, ⟨{ name := "MaxResults" }, text⟩] false false)
    (.record { name := some "Page" }
      [⟨{ name := "NextToken" }, textsShape⟩, ⟨{ name := "Items" }, textsShape⟩] false false)

theorem ofModel_tokensModel : Operation.ofModel tokensModel none = .ok [tokensOperation] := by
  have hinput : Shape.resolve (Operation.shapeTable tokensModel) none (.text "Input") =
      .ok tokensOperation.input := by
    unfold Shape.resolve
    rw [← nestedResolver_eq_resolveAt (fun _ _ _ => .error ⟨"", []⟩) (by decide : _ < 4)]
    rfl
  have houtput : Shape.resolve (Operation.shapeTable tokensModel) none (.text "Page") =
      .ok tokensOperation.output := by
    unfold Shape.resolve
    rw [← nestedResolver_eq_resolveAt (fun _ _ _ => .error ⟨"", []⟩) (by decide : _ < 4)]
    rfl
  have hentry : Operation.ofEntry "ListItems" tokensEntry (Operation.shapeTable tokensModel) none =
      .ok tokensOperation :=
    Operation.ofEntry_eq_ok_iff.mpr ⟨_, _, hinput, houtput, rfl⟩
  rw [Operation.ofModel_eq_ok_iff]
  exact congrArg (fun made => [made]) hentry

/-- The tokens are taken for the data of the page, and are returned in place of it. -/
theorem tokensOperation_returns_tokens :
    ∃ i, Pagination.detect tokensOperation .null = .ofInferred i ∧ i.resultKey = i.outputToken ∧
      (ofOperation {} "shop" (.ofInferred i) [] tokensOperation).unwrapKey = some "NextToken" ∧
      Pagination.compact "NextToken" ∈ pagingNames := by
  have htoken : Pagination.compact "NextToken" = Pagination.tokenName := by
    rw [Pagination.compact_of_all_lt (by decide)]
    decide +kernel
  have hlimit : Pagination.compact "MaxResults" = Pagination.limitName := by
    rw [Pagination.compact_of_all_lt (by decide)]
    decide +kernel
  have hother : Pagination.tokenName ≠ Pagination.limitName := by decide
  have hpage : Pagination.Inferred.NamesPage tokensOperation.input tokensOperation.output
      ⟨"NextToken", "NextToken", "MaxResults", "NextToken"⟩ :=
    { input_eq := ⟨_, _, _, rfl⟩
      output_eq := ⟨_, _, _, rfl⟩
      inputToken := ⟨[], _, _, rfl, List.forall_mem_nil _, htoken, rfl⟩
      outputToken := ⟨[], _, _, rfl, List.forall_mem_nil _, htoken, rfl⟩
      limitKey := ⟨[_], _, _, rfl,
        List.forall_mem_singleton.mpr fun h => hother (htoken.symm.trans h), hlimit, rfl⟩
      resultKey := ⟨[], _, _, rfl, List.forall_mem_nil _, rfl, rfl⟩
      resultKey_ne := by decide }
  have houtput : tokensOperation.outputShape = some "Page" := rfl
  have hdetect : Pagination.detect tokensOperation .null =
      .ofInferred ⟨"NextToken", "NextToken", "MaxResults", "NextToken"⟩ :=
    Pagination.detect_eq_ofInferred_iff.mpr ⟨houtput ▸ Option.some_ne_none _, rfl, hpage⟩
  obtain ⟨i, hinferred, -, hunwrap, -⟩ :=
    inferred_page_returns_first_list isMadeOf_tokensModel ofModel_tokensModel
      List.mem_cons_self (hdetect ▸ rfl : (Pagination.detect tokensOperation .null).source = _)
  obtain rfl := Pagination.ofInferred_injective (hdetect.symm.trans hinferred)
  have hpaging : Pagination.compact "NextToken" ∈ pagingNames := by
    rw [htoken]
    decide
  exact ⟨_, hdetect, rfl, (hunwrap {} "shop" [] "NextToken").mpr ⟨rfl, rfl, rfl⟩, hpaging⟩

end Signature

end ServiceShell
