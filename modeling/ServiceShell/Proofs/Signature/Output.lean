import Mathlib.Data.List.Nodup
import ServiceShell.Signature.Assembly

/-!
# What a command returns

A command returns the output of its operation, or in its place the one list in it that holds the
data.  The pagination descriptor may name that list; else it is the only list of the output whose
name has nothing to do with pages.

Main results:

- Definition `IsDataKey`: the list that is returned in place of the members of a record.
- Theorem `dataList?_eq_some_iff`: it is what the code looks for, where names are distinct.
- Theorem `Signature.unwrapKey_eq_some_iff`: when a list is returned in place of the output.
- Theorem `Signature.returns_data_list`: that, and the type of the returned value in either case.
-/

namespace ServiceShell

/-! ## Members by name -/

section Members

variable {members : List (Member Shape)} {name : String} {m : Member Shape}

/-- A member with a name is found by it, and no other is, where names are distinct. -/
theorem findMember?_eq_some_iff (hnodup : (members.map Member.name).Nodup) :
    findMember? members name = some m ↔ m ∈ members ∧ m.name = name := by
  unfold findMember?
  constructor
  · intro h
    exact ⟨List.mem_of_find?_eq_some h, by simpa using List.find?_some h⟩
  · rintro ⟨hm, rfl⟩
    obtain ⟨found, hfound⟩ : ∃ found, members.find? (fun n => n.name = m.name) = some found := by
      rw [← Option.isSome_iff_exists, List.find?_isSome]
      exact ⟨m, hm, decide_eq_true rfl⟩
    have hname : found.name = m.name := by simpa using List.find?_some hfound
    rw [hfound, List.inj_on_of_nodup_map hnodup (List.mem_of_find?_eq_some hfound) hm hname]

/-- The compact form of a name of common characters. -/
theorem Pagination.compact_of_all_lt {name : String}
    (h : name.toList.all (fun c => c.toNat < 128) = true) :
    compact name = String.ofList
      ((name.toList.map Char.toLower).filter fun c => c.isLower || c.isDigit) := by
  have hlower : ∀ c ∈ name.toList, Text.lower c = c.toLower := fun c hc =>
    Text.lower_of_lt (of_decide_eq_true (List.all_eq_true.mp h c hc))
  rw [compact, List.map_congr_left hlower]

/-- Whether a name is that of a list among some members. -/
def NamesList (members : List (Member Shape)) (name : String) : Prop :=
  ∃ m ∈ members, m.name = name ∧ m.shape.isList = true

/-- Whether a member is a list whose name has nothing to do with pages. -/
def IsDataList (m : Member Shape) : Prop :=
  m.shape.isList = true ∧ Pagination.compact m.name ∉ pagingNames

end Members

/-! ## The list that holds the data -/

/-- The name of the list that is returned in place of a record with some members. -/
inductive IsDataKey (members : List (Member Shape)) (pagination : Pagination) : String → Prop
  /-- The descriptor names one member, and that is a list. -/
  | told {key : String} (hkey : pagination.resultKey = some (.one key))
      (hlist : NamesList members key) : IsDataKey members pagination key
  /-- The descriptor names no list, and one list only has nothing to do with pages. -/
  | only {m : Member Shape}
      (huntold : ∀ key, pagination.resultKey = some (.one key) → ¬ NamesList members key)
      (hm : m ∈ members) (hdata : IsDataList m)
      (honly : ∀ other ∈ members, IsDataList other → other = m) :
      IsDataKey members pagination m.name

section DataList

variable {members : List (Member Shape)} {pagination : Pagination} {key : String}

/-- The descriptor tells the list that holds the data if it names one member, and that is a
list. -/
theorem resultList?_eq_some_iff (hnodup : (members.map Member.name).Nodup) :
    resultList? members pagination = some key ↔
      pagination.resultKey = some (.one key) ∧ NamesList members key := by
  have hfound (told : String) : NamesList members told ↔
      ∃ m, findMember? members told = some m ∧ m.shape.isList = true := by
    simp only [findMember?_eq_some_iff hnodup, and_assoc, NamesList]
  unfold resultList?
  split
  · rename_i told htold
    rw [htold, hfound]
    cases hfind : findMember? members told with
    | none =>
        constructor
        · nofun
        · rintro ⟨hkey, m, hm, -⟩
          cases hkey
          cases hfind.symm.trans hm
    | some m =>
        constructor
        · intro h
          obtain ⟨hlist, heq⟩ := Option.ite_none_right_eq_some.mp h
          cases heq
          exact ⟨rfl, m, hfind, hlist⟩
        · rintro ⟨hkey, other, hother, hlist⟩
          cases hkey
          cases hfind.symm.trans hother
          exact if_pos hlist
  · rename_i hother
    constructor
    · nofun
    · rintro ⟨hkey, -⟩
      exact absurd hkey (hother key)

/-- What the code asks of a list that holds data. -/
theorem isDataList_iff {m : Member Shape} :
    (m.shape.isList && !pagingNames.contains (Pagination.compact m.name)) = true ↔
      IsDataList m := by
  simp [IsDataList]

/-- One list only holds data exactly if there is one and no other. -/
theorem dataLists_eq_singleton_iff (hnodup : (members.map Member.name).Nodup) :
    dataLists members = [key] ↔
      ∃ m ∈ members, m.name = key ∧ IsDataList m ∧
        ∀ other ∈ members, IsDataList other → other = m := by
  unfold dataLists
  rw [List.map_eq_singleton_iff]
  constructor
  · rintro ⟨m, hfilter, rfl⟩
    have hmem (other : Member Shape) : (other ∈ members ∧ IsDataList other) ↔ other = m := by
      have hiff := iff_of_eq (congrArg (other ∈ ·) hfilter)
      rwa [List.mem_filter, isDataList_iff, List.mem_singleton] at hiff
    obtain ⟨hm, hdata⟩ := (hmem m).mpr rfl
    exact ⟨m, hm, rfl, hdata, fun other hother hlist => (hmem other).mp ⟨hother, hlist⟩⟩
  · rintro ⟨m, hm, rfl, hdata, honly⟩
    refine ⟨m, ?_, rfl⟩
    rw [← List.perm_singleton, List.perm_ext_iff_of_nodup ((List.Nodup.of_map _ hnodup).filter _)
      (List.nodup_singleton m)]
    intro other
    rw [List.mem_filter, isDataList_iff, List.mem_singleton]
    constructor
    · rintro ⟨hother, hlist⟩
      exact honly other hother hlist
    · rintro rfl
      exact ⟨hm, hdata⟩

/-- If the descriptor does not tell the list, it is the only one that holds data. -/
theorem dataList?_of_resultList?_eq_none (h : resultList? members pagination = none) :
    dataList? members pagination = some key ↔ dataLists members = [key] := by
  unfold dataList?
  rw [h]
  dsimp only
  split
  · rename_i name hname
    simp [hname]
  · rename_i hother
    exact ⟨nofun, fun hlists => absurd hlists (hother key)⟩

/-- What the code looks for is the list that holds the data, where names are distinct. -/
theorem dataList?_eq_some_iff (hnodup : (members.map Member.name).Nodup) :
    dataList? members pagination = some key ↔ IsDataKey members pagination key := by
  cases htold : resultList? members pagination with
  | some told =>
      obtain ⟨hkey, hlist⟩ := (resultList?_eq_some_iff hnodup).mp htold
      simp only [dataList?, htold]
      constructor
      · intro h
        cases h
        exact .told hkey hlist
      · intro h
        cases h with
        | told hother =>
            cases hkey.symm.trans hother
            rfl
        | only huntold => exact absurd hlist (huntold told hkey)
  | none =>
      have huntold (other : String) (hkey : pagination.resultKey = some (.one other)) :
          ¬ NamesList members other := by
        intro hlist
        have hsome := (resultList?_eq_some_iff hnodup).mpr ⟨hkey, hlist⟩
        cases htold.symm.trans hsome
      rw [dataList?_of_resultList?_eq_none htold, dataLists_eq_singleton_iff hnodup]
      constructor
      · rintro ⟨m, hm, rfl, hdata, honly⟩
        exact .only huntold hm hdata honly
      · intro h
        cases h with
        | told hkey hlist => exact absurd hlist (huntold key hkey)
        | only _ hm hdata honly => exact ⟨_, hm, rfl, hdata, honly⟩

/-- The list that holds the data is one of the members. -/
theorem IsDataKey.namesList (h : IsDataKey members pagination key) : NamesList members key := by
  cases h with
  | told _ hlist => exact hlist
  | only _ hm hdata _ => exact ⟨_, hm, rfl, hdata.1⟩

end DataList

/-! ## What an operation returns -/

/-- Whether the list with a name is returned in place of the output of an operation. -/
structure Operation.Unwraps (settings : GeneratorSettings) (pagination : Pagination)
    (o : Operation) (key : String) : Prop where
  /-- Lists are to be returned in place of outputs. -/
  wanted : settings.unwrapListOutputs = true
  /-- The operation has an output. -/
  hasOutput : o.outputShape ≠ none
  /-- The output is a record that does not refer back to itself. -/
  isRecord : ∃ info isException, o.output = .record info o.output.members false isException
  /-- The list is the one that holds the data. -/
  isDataKey : IsDataKey o.output.members pagination key

/-- Whether an operation has no output, or a record without members that does not refer back to
itself. -/
def Operation.ReturnsNothing (o : Operation) : Prop :=
  o.outputShape = none ∨ ∃ info isException, o.output = .record info [] false isException

theorem Shape.isEmptyRecord_iff {s : Shape} :
    s.isEmptyRecord = true ↔ ∃ info isException, s = .record info [] false isException := by
  constructor
  · intro h
    unfold isEmptyRecord at h
    split at h
    · exact ⟨_, _, rfl⟩
    · cases h
  · rintro ⟨info, isException, rfl⟩
    rfl

section Operation

variable {settings : GeneratorSettings} {pagination : Pagination} {o : Operation}

theorem Operation.returnsNothing_iff :
    (o.outputShape.isNone || o.output.isEmptyRecord) = true ↔ o.ReturnsNothing := by
  rw [Bool.or_eq_true, Option.isNone_iff_eq_none, Shape.isEmptyRecord_iff, ReturnsNothing]

/-- A record without members has no list. -/
theorem Operation.Unwraps.not_returnsNothing {key : String} (h : o.Unwraps settings pagination key) :
    ¬ o.ReturnsNothing := by
  rintro (hnone | ⟨info, isException, hempty⟩)
  · exact h.hasOutput hnone
  · obtain ⟨m, hm, -⟩ := h.isDataKey.namesList
    rw [hempty] at hm
    cases hm

/-- The member that is found to be returned in place of a record. -/
theorem unwrapped?_record (info : ShapeInfo) (members : List (Member Shape)) (isException : Bool) :
    unwrapped? settings pagination (.record info members false isException) =
      if settings.unwrapListOutputs then (dataList? members pagination).bind (findMember? members)
      else none :=
  rfl

/-- The member that is returned in place of the output, where names are distinct. -/
theorem unwrapped?_eq_some_iff (hnodup : (o.output.members.map Member.name).Nodup)
    (houtput : o.outputShape ≠ none) {m : Member Shape} :
    unwrapped? settings pagination o.output = some m ↔
      m ∈ o.output.members ∧ o.Unwraps settings pagination m.name := by
  constructor
  · intro h
    unfold unwrapped? at h
    split at h
    · rename_i info members isException hrecord
      obtain ⟨hwanted, hbind⟩ := Option.ite_none_right_eq_some.mp h
      obtain ⟨key, hkey, hfind⟩ := Option.bind_eq_some_iff.mp hbind
      have hmembers : o.output.members = members := by rw [hrecord, Shape.members]
      rw [hmembers] at hnodup ⊢
      obtain ⟨hm, rfl⟩ := (findMember?_eq_some_iff hnodup).mp hfind
      refine ⟨hm, hwanted, houtput, ⟨info, isException, ?_⟩, ?_⟩
      · rw [hmembers, hrecord]
      · rw [hmembers]
        exact (dataList?_eq_some_iff hnodup).mp hkey
    · cases h
  · rintro ⟨hm, hunwraps⟩
    obtain ⟨info, isException, hrecord⟩ := hunwraps.isRecord
    rw [hrecord, unwrapped?_record, if_pos hunwraps.wanted,
      (dataList?_eq_some_iff hnodup).mpr hunwraps.isDataKey]
    exact (findMember?_eq_some_iff hnodup).mpr ⟨hm, rfl⟩

/-- What is returned: nothing, the list that holds the data, or the whole output. -/
theorem outputType_cases (hnodup : (o.output.members.map Member.name).Nodup) :
    (∃ m ∈ o.output.members, o.Unwraps settings pagination m.name ∧
        outputType settings pagination o = (m.shape.type (.ofField m.name), some m.name)) ∨
      (∀ key, ¬ o.Unwraps settings pagination key) ∧
        ((o.ReturnsNothing ∧ outputType settings pagination o = (.plain .nothing, none)) ∨
          (¬ o.ReturnsNothing ∧ outputType settings pagination o = (o.output.type {}, none))) := by
  unfold outputType
  split <;> rename_i hnothing
  · have hreturns := Operation.returnsNothing_iff.mp hnothing
    exact .inr ⟨fun key hunwraps => hunwraps.not_returnsNothing hreturns, .inl ⟨hreturns, rfl⟩⟩
  · have hreturns := mt Operation.returnsNothing_iff.mpr hnothing
    have houtput : o.outputShape ≠ none := fun hnone => hreturns (.inl hnone)
    cases hmember : unwrapped? settings pagination o.output with
    | some m =>
        obtain ⟨hm, hunwraps⟩ := (unwrapped?_eq_some_iff hnodup houtput).mp hmember
        exact .inl ⟨m, hm, hunwraps, rfl⟩
    | none =>
        refine .inr ⟨fun key hunwraps => ?_, .inr ⟨hreturns, rfl⟩⟩
        obtain ⟨m, hm, rfl, -⟩ := hunwraps.isDataKey.namesList
        have hsome := (unwrapped?_eq_some_iff hnodup houtput).mpr ⟨hm, hunwraps⟩
        cases hmember.symm.trans hsome

end Operation

namespace Signature

variable {settings : GeneratorSettings} {service : String} {pagination : Pagination}
  {errors : List ErrorDescriptor} {o : Operation}

/-- A signature tells that a list is returned in place of the output exactly when it is. -/
theorem unwrapKey_eq_some_iff (hnodup : (o.output.members.map Member.name).Nodup) {key : String} :
    (ofOperation settings service pagination errors o).unwrapKey = some key ↔
      o.Unwraps settings pagination key := by
  change (outputType settings pagination o).2 = some key ↔ _
  rcases outputType_cases hnodup with ⟨m, hm, hunwraps, heq⟩ | ⟨hnone, ⟨-, heq⟩ | ⟨-, heq⟩⟩ <;>
    rw [heq]
  · constructor
    · intro h
      cases h
      exact hunwraps
    · intro hother
      have hfirst := (dataList?_eq_some_iff hnodup).mpr hunwraps.isDataKey
      exact hfirst.symm.trans ((dataList?_eq_some_iff hnodup).mpr hother.isDataKey)
  · exact ⟨nofun, fun hunwraps => absurd hunwraps (hnone key)⟩
  · exact ⟨nofun, fun hunwraps => absurd hunwraps (hnone key)⟩

/-- Where the members of the output have distinct names, a signature tells that a list is returned in
place of the output exactly when that is wanted, the output is a record that does not refer back to
itself, and the list is the one that the pagination descriptor names, or else the only one whose name
has nothing to do with pages.  The type is that of the list then.  Otherwise it is that of the
output, or there is nothing to return. -/
theorem returns_data_list (hnodup : (o.output.members.map Member.name).Nodup)
    (settings : GeneratorSettings) (service : String) (pagination : Pagination)
    (errors : List ErrorDescriptor) :
    let s := ofOperation settings service pagination errors o
    (∀ key, s.unwrapKey = some key ↔ o.Unwraps settings pagination key) ∧
      (∀ key, s.unwrapKey = some key →
        ∃ m ∈ o.output.members, m.name = key ∧ s.returnType = m.shape.type (.ofField key)) ∧
      (s.unwrapKey = none → o.ReturnsNothing → s.returnType = .plain .nothing) ∧
      (s.unwrapKey = none → ¬ o.ReturnsNothing → s.returnType = o.output.type {}) := by
  intro s
  refine ⟨fun key => unwrapKey_eq_some_iff hnodup, ?_⟩
  have hkey : s.unwrapKey = (outputType settings pagination o).2 := rfl
  have htype : s.returnType = (outputType settings pagination o).1 := rfl
  rw [hkey, htype]
  rcases @outputType_cases settings pagination o hnodup with
    ⟨m, hm, hunwraps, heq⟩ | ⟨-, ⟨hnothing, heq⟩ | ⟨hsomething, heq⟩⟩ <;> rw [heq]
  · refine ⟨?_, nofun, nofun⟩
    rintro key hkey
    cases hkey
    exact ⟨m, hm, rfl, rfl⟩
  · exact ⟨nofun, fun _ _ => rfl, fun _ hsomething => absurd hnothing hsomething⟩
  · exact ⟨nofun, fun _ hnothing => absurd hnothing hsomething, fun _ _ => rfl⟩

/-- A list of texts. -/
def textsShape : Shape := .list { name := some "Texts" } (.scalar { name := some "Text" } "string")
  false

/-- A page of items, with a list of markers before them. -/
def pageShape : Shape :=
  .record { name := some "Page" }
    [⟨{ name := "Marker" }, textsShape⟩, ⟨{ name := "Items" }, textsShape⟩,
      ⟨{ name := "NextToken" }, .scalar { name := some "Text" } "string"⟩] false false

/-- An operation that returns such a page. -/
def pageOperation : Operation :=
  { name := "list-items", modelName := "ListItems", outputShape := some "Page", output := pageShape }

/-- The items are returned in place of the page, as the markers have to do with pages; but when the
descriptor names the markers, these are. -/
theorem pageOperation_returns_data_list :
    (ofOperation {} "shop" {} [] pageOperation).unwrapKey = some "Items" ∧
      (ofOperation {} "shop" { resultKey := some (.one "Marker") } [] pageOperation).unwrapKey =
        some "Marker" := by
  have hnodup : (pageOperation.output.members.map Member.name).Nodup := by decide
  have hmarker : Pagination.compact "Marker" ∈ pagingNames := by
    rw [Pagination.compact_of_all_lt (by decide)]
    decide +kernel
  have hitem : Pagination.compact "Items" ∉ pagingNames := by
    rw [Pagination.compact_of_all_lt (by decide)]
    decide +kernel
  constructor
  · refine ((returns_data_list hnodup {} "shop" {} []).1 "Items").mpr
      ⟨rfl, nofun, ⟨_, _, rfl⟩, ?_⟩
    have hitems : ⟨{ name := "Items" }, textsShape⟩ ∈ pageOperation.output.members :=
      List.mem_cons_of_mem _ List.mem_cons_self
    have huntold (key : String) (h : ({} : Pagination).resultKey = some (.one key)) :
        ¬ NamesList pageOperation.output.members key := by
      cases h
    refine .only huntold hitems ⟨rfl, hitem⟩ ?_
    intro other hother hdata
    simp only [pageOperation, pageShape, Shape.members, List.mem_cons, List.not_mem_nil,
      or_false] at hother
    rcases hother with rfl | rfl | rfl
    · exact absurd hmarker hdata.2
    · rfl
    · cases hdata.1
  · refine ((returns_data_list hnodup {} "shop" _ []).1 "Marker").mpr
      ⟨rfl, nofun, ⟨_, _, rfl⟩, ?_⟩
    exact .told rfl ⟨_, List.mem_cons_self, rfl, rfl⟩

end Signature

end ServiceShell
