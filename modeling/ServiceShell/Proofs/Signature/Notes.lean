import ServiceShell.Proofs.Host.Note
import ServiceShell.Proofs.Service.Operation
import ServiceShell.Proofs.Shape.Termination
import ServiceShell.Proofs.Signature.Parameters

/-!
# Comments on types that fall back

Where a parameter or the returned value could not be given a type of its own, the comments of the
signature say why, by the note that the type carries.

Main results:

- Theorem `Operation.allKnown_of_ofEntry`: all shapes of an operation are known.
- Theorem `Signature.type_cases_of_mem_parameters`: the type of a parameter is that of its member.
- Theorem `Signature.returnType_cases`: the type of the returned value is that of the output or of a
  member of it.
- Theorem `Signature.notes_explain_any`: each type that ends in `any` has a comment, and no type has
  a note without a reason.
-/

namespace ServiceShell

/-! ## Operations -/

/-- All shapes of an operation are known. -/
theorem Operation.allKnown_of_ofEntry {key : String} {entry : Document} {table : Fields}
    {limit : Option Int} {o : Operation} (h : Operation.ofEntry key entry table limit = .ok o) :
    o.input.AllKnown ∧ o.output.AllKnown := by
  apply input_output_of_ofEntry ?empty ?resolve h
  case empty => exact .of_children rfl nofun
  case resolve =>
    intro name shape hshape
    exact Shape.allKnown_of_resolve hshape

/-! ## Parameters -/

/-- A note that is not empty becomes a comment. -/
theorem Parameter.noteComment?_of_ne_empty {note : String} (hnote : note ≠ "") (label : String) :
    noteComment? label (some note) = some (label ++ ": " ++ note) := by
  unfold noteComment?
  split
  · rename_i heq
    cases heq
  · rename_i heq
    cases heq
    exact absurd rfl hnote
  · rename_i heq
    cases heq
    rfl

/-- Why nothing is known about arguments is told. -/
theorem Shape.inputReason_ne_empty (s : Shape) : s.inputReason ≠ "" := by
  unfold inputReason
  split
  · split
    · decide
    · assumption
  · decide

/-- An input is a record, whose members have parameters, or all its arguments are taken by one. -/
theorem inputParameters_cases (settings : GeneratorSettings) (service : String) (input : Shape) :
    inputParameters settings service input =
        (Parameter.ofMembers settings service input.members,
          (Parameter.ofMembers settings service input.members).filterMap Parameter.comment?) ∨
      inputParameters settings service input = ([Parameter.takingAll input.inputReason], [
        s!"input shape could not be resolved ({input.inputReason}); accepting any arguments"]) := by
  cases input with
  | record => exact .inl rfl
  | _ => exact .inr rfl

/-- Each parameter of members has the type of one of them. -/
theorem Parameter.exists_type_of_mem_ofMembers {settings : GeneratorSettings} {service : String}
    {members : List (Member Shape)} {p : Parameter} (hp : p ∈ ofMembers settings service members) :
    p.rest = false ∧
      ∃ m ∈ members, p.modelName = m.name ∧ p.type = m.shape.type (.ofField m.name) := by
  obtain ⟨m, hm, before, rfl⟩ := exists_ofMember_of_mem hp
  refine ⟨rfl, m, ?_, rfl, rfl⟩
  rcases List.mem_append.mp hm with hm | hm <;> exact List.mem_of_mem_filter hm

/-! ## Returned values -/

/-- The shape that an operation returns, and the context that it has; none when it returns
nothing. -/
def returned? (settings : GeneratorSettings) (pagination : Pagination) (o : Operation) :
    Option (Shape × TypeContext) :=
  if o.outputShape.isNone || o.output.isEmptyRecord then none
  else
    match unwrapped? settings pagination o.output with
    | some m => some (m.shape, .ofField m.name)
    | none => some (o.output, {})

theorem outputType_eq (settings : GeneratorSettings) (pagination : Pagination) (o : Operation) :
    (outputType settings pagination o).1 =
      (returned? settings pagination o).elim (.plain .nothing) fun r => r.1.type r.2 := by
  unfold outputType returned?
  split
  · rfl
  · cases unwrapped? settings pagination o.output <;> rfl

/-- What is returned is the output or a member of it. -/
theorem mem_children_of_unwrapped? {settings : GeneratorSettings} {pagination : Pagination}
    {output : Shape} {m : Member Shape} (h : unwrapped? settings pagination output = some m) :
    m.shape ∈ output.children := by
  unfold unwrapped? at h
  split at h
  · split at h
    · obtain ⟨name, -, hfind⟩ := Option.bind_eq_some_iff.mp h
      exact List.mem_map_of_mem (List.mem_of_find?_eq_some hfind)
    · cases h
  · cases h

/-- What is returned is the output or a child of it. -/
theorem eq_or_mem_children_of_returned? {settings : GeneratorSettings} {pagination : Pagination}
    {o : Operation} {r : Shape × TypeContext} (h : returned? settings pagination o = some r) :
    r.1 = o.output ∨ r.1 ∈ o.output.children := by
  unfold returned? at h
  split at h
  · cases h
  · split at h <;> cases h
    · rename_i m hm
      exact .inr (mem_children_of_unwrapped? hm)
    · exact .inl rfl

theorem allKnown_of_returned? {settings : GeneratorSettings} {pagination : Pagination}
    {o : Operation} {r : Shape × TypeContext} (ho : o.output.AllKnown)
    (h : returned? settings pagination o = some r) : r.1.AllKnown := by
  rcases eq_or_mem_children_of_returned? h with heq | hc
  · rw [heq]
    exact ho
  · exact ho.of_mem_children hc

/-! ## Signatures -/

/-- Whether a type has a note, and a comment tells it after a label. -/
def HostType.IsExplained (t : HostType) (label : String) (comments : List String) : Prop :=
  ∃ note, t.note = some note ∧ note ≠ "" ∧ label ++ ": " ++ note ∈ comments

/-- What ends in `any` is explained, when its note becomes a comment. -/
theorem HostType.IsNoted.isExplained {t : HostType} {cyclic : Bool} (ht : t.IsNoted cyclic)
    (hany : t.EndsInAny) {label : String} {comments : List String}
    (hcomment : ∀ comment, Parameter.noteComment? label t.note = some comment →
      comment ∈ comments) : t.IsExplained label comments := by
  obtain ⟨note, hnote, hne⟩ := ht.explained hany
  refine ⟨note, hnote, hne, hcomment _ ?_⟩
  rw [hnote, Parameter.noteComment?_of_ne_empty hne]

namespace Signature

variable {settings : GeneratorSettings} {service : String} {pagination : Pagination}
  {errors : List ErrorDescriptor} {o : Operation}

theorem comments_ofOperation :
    (ofOperation settings service pagination errors o).comments =
      (inputParameters settings service o.input).2
        ++ (returnComment? (outputType settings pagination o).1).toList
        ++ (pageComment? pagination).toList ++ (retryComment? o.errors errors).toList :=
  rfl

/-- The comments on parameters are comments of the signature. -/
theorem mem_comments_of_input {comment : String}
    (h : comment ∈ (inputParameters settings service o.input).2) :
    comment ∈ (ofOperation settings service pagination errors o).comments := by
  simp only [comments_ofOperation, List.mem_append]
  exact .inl (.inl (.inl h))

/-- The comment on the returned value is a comment of the signature. -/
theorem mem_comments_of_output {comment : String}
    (h : returnComment? (outputType settings pagination o).1 = some comment) :
    comment ∈ (ofOperation settings service pagination errors o).comments := by
  simp only [comments_ofOperation, List.mem_append, Option.mem_toList]
  exact .inl (.inl (.inr h))

/-- A parameter that stands for a member has its type, and a comment when the type has a note; the
one that takes all arguments tells why. -/
theorem type_cases_of_mem_parameters {p : Parameter}
    (hp : p ∈ (ofOperation settings service pagination errors o).parameters) :
    (p.rest = false ∧
      (∃ m ∈ o.input.members, p.modelName = m.name ∧ p.type = m.shape.type (.ofField m.name)) ∧
      ∀ comment, p.comment? = some comment →
        comment ∈ (ofOperation settings service pagination errors o).comments) ∨
    p = Parameter.takingAll o.input.inputReason ∧
      s!"input shape could not be resolved ({o.input.inputReason}); accepting any arguments" ∈
        (ofOperation settings service pagination errors o).comments := by
  change p ∈ (inputParameters settings service o.input).1 at hp
  rcases inputParameters_cases settings service o.input with heq | heq
  · left
    have hmem : p ∈ Parameter.ofMembers settings service o.input.members := by rwa [heq] at hp
    obtain ⟨hrest, hmember⟩ := Parameter.exists_type_of_mem_ofMembers hmem
    refine ⟨hrest, hmember, ?_⟩
    intro comment hcomment
    refine mem_comments_of_input ?_
    rw [heq]
    exact List.mem_filterMap.mpr ⟨p, hmem, hcomment⟩
  · right
    rw [heq] at hp
    refine ⟨List.mem_singleton.mp hp, mem_comments_of_input ?_⟩
    rw [heq]
    exact List.mem_singleton_self _

/-- The type of the returned value needs no note, or it is that of the shape that is returned. -/
theorem returnType_cases (ho : o.output.AllKnown) :
    (ofOperation settings service pagination errors o).returnType.IsExact ∨
      ∃ r, returned? settings pagination o = some r ∧
        (ofOperation settings service pagination errors o).returnType = r.1.type r.2 ∧
          (r.1.type r.2).IsNoted r.1.hasCyclicList := by
  have htype : (ofOperation settings service pagination errors o).returnType =
      (returned? settings pagination o).elim (.plain .nothing) fun r => r.1.type r.2 :=
    outputType_eq settings pagination o
  cases hreturned : returned? settings pagination o with
  | none =>
      left
      rw [htype, hreturned]
      exact isExact_plain .nothing nofun nofun
  | some r =>
      right
      rw [hreturned] at htype
      exact ⟨r, rfl, htype, Shape.isNoted_type (allKnown_of_returned? ho hreturned) _⟩

/-- Degradation is never silent and never spurious.  A parameter or a returned value whose type is
`any`, or a list whose innermost elements are, has a note, and the comments tell it; so does the
parameter that takes all arguments.  Any other type has a note only if its shape is a list that
refers back to itself, or has such a list among its elements.  No shape of the operation is left to
the branch for shapes that are not recognized. -/
theorem notes_explain_any {key : String} {entry : Document} {table : Fields} {limit : Option Int}
    (h : Operation.ofEntry key entry table limit = .ok o) {s : Signature}
    (hs : s = ofOperation settings service pagination errors o) :
    (∀ p ∈ s.parameters,
      (p.rest = false → p.type.EndsInAny → p.type.IsExplained p.name s.comments) ∧
      (p.rest = true → ∃ note, p.type.note = some note ∧ note ≠ "" ∧
        s!"input shape could not be resolved ({note}); accepting any arguments" ∈ s.comments) ∧
      (p.type.note ≠ none → p.type.EndsInAny ∨ ∃ m ∈ o.input.members, p.modelName = m.name ∧
        p.type = m.shape.type (.ofField m.name) ∧ m.shape.hasCyclicList = true)) ∧
    (s.returnType.EndsInAny →
      s.returnType.IsExplained ("returns " ++ s.returnType.render) s.comments) ∧
    (s.returnType.note ≠ none → s.returnType.EndsInAny ∨
      ∃ r, returned? settings pagination o = some r ∧ s.returnType = r.1.type r.2 ∧
        r.1.hasCyclicList = true) ∧
    ∀ root ∈ [o.input, o.output], ∀ above shape, Shape.Descent root above shape →
      ∀ context, shape.claimingRules context = [] → shape.kind = "any" := by
  obtain ⟨hinput, houtput⟩ := Operation.allKnown_of_ofEntry h
  subst hs
  have hreturn := @returnType_cases settings service pagination errors o houtput
  refine ⟨?parameters, ?explained, ?warranted, ?recognized⟩
  case parameters =>
    intro p hp
    rcases type_cases_of_mem_parameters hp with ⟨hrest, ⟨m, hm, hname, htype⟩, hcomment⟩ |
      ⟨rfl, hcomment⟩
    · have hnoted : p.type.IsNoted m.shape.hasCyclicList := by
        rw [htype]
        exact Shape.isNoted_type
          (hinput.of_mem_children (Shape.mem_children_of_mem_members hm)) _
      refine ⟨fun _ hany => hnoted.isExplained hany hcomment, ?_, ?_⟩
      · intro hall
        rw [hrest] at hall
        cases hall
      · intro hnote
        exact (hnoted.warranted hnote).imp_right fun hcyclic => ⟨m, hm, hname, htype, hcyclic⟩
    · refine ⟨nofun, fun _ => ⟨_, rfl, Shape.inputReason_ne_empty _, hcomment⟩, ?_⟩
      exact fun _ => .inl rfl
  case explained =>
    intro hany
    rcases hreturn with hexact | ⟨r, -, htype, hnoted⟩
    · exact absurd hany hexact.not_endsInAny
    · rw [← htype] at hnoted
      exact hnoted.isExplained hany fun _ hcomment => mem_comments_of_output hcomment
  case warranted =>
    intro hnote
    rcases hreturn with hexact | ⟨r, hr, htype, hnoted⟩
    · exact absurd hexact.note_eq hnote
    · rw [← htype] at hnoted
      exact (hnoted.warranted hnote).imp_right fun hcyclic => ⟨r, hr, htype, hcyclic⟩
  case recognized =>
    intro root hroot above shape hdescent context hnil
    have hknown : root.AllKnown := by
      rcases List.mem_pair.mp hroot with rfl | rfl
      · exact hinput
      · exact houtput
    by_contra hkind
    exact Shape.claimingRules_ne_nil (hknown above shape hdescent) hkind context hnil

/-- An operation that takes a folder and returns one. -/
def moveFolderEntry : Document := .ofPairs [("input", .text "Folder"), ("output", .text "Folder")]

/-- The operation of that entry. -/
def moveFolder : Operation :=
  Operation.ofShapes "MoveFolder" moveFolderEntry folderShape folderShape

/-- The entries of a folder are a list of anything, as folders refer back to themselves, and a
folder that is returned can be anything for the same reason.  Both are explained. -/
theorem moveFolder_notes_explain :
    Operation.ofEntry "MoveFolder" moveFolderEntry folderTable none = .ok moveFolder ∧
      (∃ p ∈ (ofOperation {} "drive" {} [] moveFolder).parameters, p.type.EndsInAny ∧
        p.type.IsExplained "entries" (ofOperation {} "drive" {} [] moveFolder).comments) ∧
      (ofOperation {} "drive" {} [] moveFolder).returnType.IsExplained "returns any"
        (ofOperation {} "drive" {} [] moveFolder).comments := by
  have hentry : Operation.ofEntry "MoveFolder" moveFolderEntry folderTable none = .ok moveFolder :=
    Operation.ofEntry_eq_ok_iff.mpr ⟨_, _, resolve_folder, resolve_folder, rfl⟩
  obtain ⟨hparameters, hreturn, -⟩ := @notes_explain_any {} "drive" {} [] _ _ _ _ _ hentry _ rfl
  obtain ⟨p, hp, hname, hrest, hany⟩ :
      ∃ p, (ofOperation {} "drive" {} [] moveFolder).parameters[1]? = some p ∧
        p.name = "entries" ∧ p.rest = false ∧ p.type.EndsInAny :=
    ⟨_, rfl, by decide +kernel, rfl, rfl⟩
  have hmem := List.mem_of_getElem? hp
  refine ⟨hentry, ⟨p, hmem, hany, ?_⟩, hreturn rfl⟩
  have hexplained := (hparameters p hmem).1 hrest hany
  rw [hname] at hexplained
  exact hexplained

end Signature

end ServiceShell
