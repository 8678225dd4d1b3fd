import ServiceShell.Proofs.Signature.Batch
import ServiceShell.Proofs.Signature.Key
import ServiceShell.Proofs.Text.Unique

/-!
# Parameters and the members that they stand for

A record input has one parameter for each of its members.  The names of positional and of named
parameters are made in different ways, but they share one set of variables.  The body of the
command passes each variable on under the key of its own member.

Main results:

- Theorem `Parameter.forall₂_ofMembers`: each member has a parameter of its own, in order.
- Theorem `Parameter.nodup_variables_ofMembers`: no two parameters share a variable.
- Theorem `Signature.parameters_pair_members`: when there is a signature, and that the call passes
  on each member once, under its key.
-/

namespace ServiceShell

open Naming

/-! ## Members and parameters -/

namespace Parameter

variable {settings : GeneratorSettings} {service : String}

/-- Whether a parameter stands for a member: it keeps the name of the member, and it is given by its
place exactly when the member is required. -/
structure StandsFor (m : Member Shape) (p : Parameter) : Prop where
  /-- It keeps the name of the member. -/
  modelName_eq : p.modelName = m.name
  /-- It is required if the member is. -/
  required_eq : p.required = m.required
  /-- It is given by its place if the member is required. -/
  positional_eq : p.positional = m.required
  /-- It does not take the arguments of others. -/
  rest_eq : p.rest = false

/-- The variable that a parameter binds. -/
def variableName (p : Parameter) : String := variableOf p.name

theorem standsFor_ofMember (name : String) (m : Member Shape) :
    StandsFor m (ofMember settings service name m) :=
  ⟨rfl, rfl, rfl, rfl⟩

theorem forall₂_ofMembersFrom (taken : List String) (members : List (Member Shape)) :
    List.Forall₂ StandsFor members (ofMembersFrom settings service taken members) := by
  induction members generalizing taken with
  | nil => exact .nil
  | cons m rest ih => exact .cons (standsFor_ofMember _ m) (ih _)

/-- Each parameter is made for some member, under a name that was free. -/
theorem exists_ofMember_of_mem {taken : List String} {members : List (Member Shape)}
    {p : Parameter} (hp : p ∈ ofMembersFrom settings service taken members) :
    ∃ m ∈ members, ∃ before, p = ofMember settings service
      (firstFree variableOf before (wantedName m.info) (separator m.info)) m := by
  induction members generalizing taken with
  | nil => cases hp
  | cons m rest ih =>
      rcases List.mem_cons.mp hp with hfirst | hrest
      · exact ⟨m, List.mem_cons_self, taken, hfirst⟩
      · obtain ⟨other, hother, before, heq⟩ := ih hrest
        exact ⟨other, List.mem_cons_of_mem _ hother, before, heq⟩

/-- The order of the parameters leaves no member out. -/
theorem mem_inOrder_iff {members : List (Member Shape)} {m : Member Shape} :
    m ∈ inOrder members ↔ m ∈ members := by
  rw [inOrder, List.mem_append, List.mem_filter, List.mem_filter]
  cases m.required <;> simp

/-- Each member has a parameter of its own, in order. -/
theorem forall₂_ofMembers (members : List (Member Shape)) :
    List.Forall₂ StandsFor (inOrder members) (ofMembers settings service members) :=
  forall₂_ofMembersFrom [] _

/-- The variables of the parameters are distinct, and none of them was taken before. -/
theorem nodup_variables_ofMembersFrom (taken : List String) (members : List (Member Shape)) :
    ((ofMembersFrom settings service taken members).map variableName).Nodup ∧
      ∀ p ∈ ofMembersFrom settings service taken members, p.variableName ∉ taken := by
  induction members generalizing taken with
  | nil => simp [ofMembersFrom]
  | cons m rest ih =>
      have hfree := variableOf_firstFree_notMem taken (wantedName m.info) (separator m.info)
      obtain ⟨hnodup, hfresh⟩ := ih (variableOf (firstFree variableOf taken
        (wantedName m.info) (separator m.info)) :: taken)
      simp only [ofMembersFrom, List.map_cons, List.nodup_cons, List.forall_mem_cons]
      refine ⟨⟨?_, hnodup⟩, hfree, ?_⟩
      · intro hmem
        obtain ⟨p, hp, heq⟩ := List.mem_map.mp hmem
        exact hfresh p hp (heq ▸ List.mem_cons_self)
      · intro p hp htaken
        exact hfresh p hp (List.mem_cons_of_mem _ htaken)

/-- No two parameters share a variable. -/
theorem nodup_variables_ofMembers (members : List (Member Shape)) :
    ((ofMembers settings service members).map variableName).Nodup :=
  (nodup_variables_ofMembersFrom [] _).1

end Parameter

/-! ## Calls -/

namespace Signature

/-- A definition ends with the call and a closing brace. -/
theorem lines_eq_concat (dispatcher : String) (s : Signature) :
    ∃ above, s.lines dispatcher = above ++ [callLine dispatcher s] ++ ["\x7d"] :=
  ⟨_, rfl⟩

/-- A call without a parameter for all arguments passes on a record. -/
theorem callLine_of_forall_rest {s : Signature} (h : ∀ p ∈ s.parameters, p.rest = false)
    (dispatcher : String) :
    callLine dispatcher s = "    " ++ dispatcher ++ " " ++ s.service ++ " " ++ s.modelName
      ++ " \x7b" ++ ", ".intercalate (s.parameters.map callField) ++ "\x7d" := by
  have hany : s.parameters.any Parameter.rest = false := by
    rw [List.any_eq_false]
    intro p hp
    rw [h p hp]
    exact Bool.false_ne_true
  rw [callLine, hany, if_neg Bool.false_ne_true]

/-- The parameters for a record are those of its members. -/
theorem parameters_ofOperation {settings : GeneratorSettings} {service : String}
    {pagination : Pagination} {errors : List ErrorDescriptor} {o : Operation} {info : ShapeInfo}
    {members : List (Member Shape)} {selfReferencing exception : Bool}
    (hinput : o.input = .record info members selfReferencing exception) :
    (ofOperation settings service pagination errors o).parameters =
      Parameter.ofMembers settings service members := by
  rw [ofOperation, hinput]
  rfl

/-- The call for a record names the variable of each parameter behind a dollar sign. -/
theorem callLine_ofOperation {settings : GeneratorSettings} {service : String}
    {pagination : Pagination} {errors : List ErrorDescriptor} {o : Operation} {info : ShapeInfo}
    {members : List (Member Shape)} {selfReferencing exception : Bool}
    (hinput : o.input = .record info members selfReferencing exception) (dispatcher : String) :
    callLine dispatcher (ofOperation settings service pagination errors o) =
      "    " ++ dispatcher ++ " " ++ service ++ " " ++ o.modelName ++ " \x7b"
        ++ ", ".intercalate ((ofOperation settings service pagination errors o).parameters.map
          fun p => recordKey p.modelName ++ ": $" ++ p.variableName) ++ "\x7d" := by
  refine callLine_of_forall_rest (fun p hp => ?_) dispatcher
  rw [parameters_ofOperation hinput] at hp
  obtain ⟨m, -, hstands⟩ := exists_mem_of_forall₂ (Parameter.forall₂_ofMembers members) hp
  exact hstands.rest_eq

/-- The documentation of an operation whose input is a record can be read exactly if that of each
member can, and its own. -/
theorem isReadable_iff {o : Operation} {info : ShapeInfo} {members : List (Member Shape)}
    {selfReferencing exception : Bool}
    (hinput : o.input = .record info members selfReferencing exception) :
    o.IsReadable ↔ (∀ m ∈ members, Text.IsReadable (Parameter.documentationOf m)) ∧
      Text.IsReadable o.documentation := by
  have hmembers : o.input.members = members := by rw [hinput]; rfl
  rw [Operation.IsReadable, Operation.documentations, List.forall_mem_append,
    List.forall_mem_singleton, List.forall_mem_map, hmembers]
  simp only [Parameter.mem_inOrder_iff]

/-- An operation whose input is a record has a signature exactly if all documentation of its members
and its own can be read.  The signature has one parameter for each member: first the required
members, then the others, in declared order, each under the name of its member.  No two of them
share a variable.  The last line but one of the definition, the call, passes on a record that pairs
the key of each member with the variable of its own parameter, in that order, and different members
have different keys. -/
theorem parameters_pair_members {o : Operation} {info : ShapeInfo}
    {members : List (Member Shape)} {selfReferencing exception : Bool}
    (hinput : o.input = .record info members selfReferencing exception)
    (settings : GeneratorSettings) (service : String) (pagination : Pagination)
    (errors : List ErrorDescriptor) :
    ((∃ s, assemble settings service pagination errors o = .ok s) ↔
      (∀ m ∈ members, Text.IsReadable (Parameter.documentationOf m)) ∧
        Text.IsReadable o.documentation) ∧
    (∀ s, assemble settings service pagination errors o = .ok s →
      List.Forall₂ Parameter.StandsFor (Parameter.inOrder members) s.parameters ∧
        (s.parameters.map Parameter.variableName).Nodup ∧
        ∀ dispatcher, (s.lines dispatcher).dropLast.getLast? =
          some ("    " ++ dispatcher ++ " " ++ service ++ " " ++ o.modelName ++ " \x7b"
            ++ ", ".intercalate (s.parameters.map fun p =>
              recordKey p.modelName ++ ": $" ++ p.variableName) ++ "\x7d")) ∧
    Function.Injective recordKey := by
  simp only [assemble_eq_ok_iff, isReadable_iff hinput]
  refine ⟨?_, ?_, recordKey_injective⟩
  · exact ⟨fun ⟨_, h, _⟩ => h, fun h => ⟨_, h, rfl⟩⟩
  · rintro _ ⟨-, rfl⟩
    have hparameters := @parameters_ofOperation settings service pagination errors _ _ _ _ _ hinput
    refine ⟨?_, ?_, fun dispatcher => ?_⟩
    · rw [hparameters]
      exact Parameter.forall₂_ofMembers members
    · rw [hparameters]
      exact Parameter.nodup_variables_ofMembers members
    · obtain ⟨above, hlines⟩ := lines_eq_concat dispatcher
        (ofOperation settings service pagination errors o)
      rw [hlines, List.dropLast_concat, List.getLast?_concat, callLine_ofOperation hinput]

/-- A copy with a required and an optional member whose names differ in case only, and a member
whose key needs quotes. -/
def copyOperation : Operation where
  name := "copy-object"
  modelName := "CopyObject"
  input := .record {}
    [⟨{ name := "key" }, .scalar {} "string"⟩,
      ⟨{ name := "Key", required := true }, .scalar {} "string"⟩,
      ⟨{ name := "x-meta" }, .scalar {} "string"⟩] false false

/-- The required member comes first, and the other one gets a variable of its own.  With
documentation that cannot be read, the operation has no signature. -/
theorem copyOperation_pairs :
    (∃ s, assemble {} "s3" {} [] copyOperation = .ok s ∧
      (s.parameters.map Parameter.variableName).Nodup ∧
      s.parameters.map (fun p => (p.modelName, p.variableName)) =
        [("Key", "key"), ("key", "key_2"), ("x-meta", "x_meta")] ∧
      (s.lines "call").dropLast.getLast? =
        some "    call s3 CopyObject \x7bKey: $key, key: $key_2, \"x-meta\": $x_meta\x7d") ∧
    ¬ ∃ s, assemble {} "s3" {} [] { copyOperation with documentation := Text.longReference } =
      .ok s := by
  constructor
  · obtain ⟨hreturns, hpairs, -⟩ :=
      parameters_pair_members (o := copyOperation) rfl {} "s3" {} []
    obtain ⟨s, hs⟩ := hreturns.mpr (by decide)
    obtain ⟨-, hnodup, hcall⟩ := hpairs s hs
    obtain ⟨-, rfl⟩ := assemble_eq_ok_iff.mp hs
    refine ⟨_, hs, hnodup, by decide +kernel, ?_⟩
    rw [hcall]
    decide +kernel
  · obtain ⟨hreturns, -⟩ := parameters_pair_members
      (o := { copyOperation with documentation := Text.longReference }) rfl {} "s3" {} []
    rw [hreturns]
    exact fun hreadable => Text.not_isReadable_longReference hreadable.2

end Signature

end ServiceShell
