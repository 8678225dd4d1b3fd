import ServiceShell.Proofs.Document.Made
import ServiceShell.Proofs.Json.Parsed
import ServiceShell.Proofs.Shape.Resolution

/-!
# Names of members

A definition tells its members by the keys of an object.  Where these are distinct texts, as in a
document that was read from JSON, the members of each record in a resolved tree have distinct names.

Main results:

- Theorem `exists_resolveAt_of_descent`: every shape in a resolved tree is a leaf that refers to
  nothing, or what some name is resolved to.
- Theorem `Shape.namesMembers_of_resolve`: the members of each record in a resolved tree have
  distinct names.
-/

namespace ServiceShell

open Record

variable {table : Fields} {limit : Option Int}

/-! ## Shapes in a resolved tree -/

/-- A shape directly below a resolved one is a leaf that refers to nothing, or what some name is
resolved to. -/
theorem exists_resolveAt_of_mem_children {path : List String} {depth : Nat} {name : Document}
    {r : Resolution} (h : resolveAt table limit path depth name = .ok r) {c : Shape}
    (hc : c ∈ r.shape.children) :
    c.IsLeaf ∨ ∃ path depth name below,
      resolveAt table limit path depth name = .ok below ∧ below.shape = c := by
  rw [resolveAt_eq_step] at h
  rcases resolveStep_eq_ok h with ⟨shape, hleaf, rfl⟩ | ⟨n, -, rfl⟩ |
    ⟨n, children, -, -, -, hexpansion, hfrom⟩
  · have hnone : c ∈ ([] : List Shape) := hleaf.isPlain.children_eq ▸ hc
    cases hnone
  · cases hc
  · rw [hexpansion.children_eq] at hc
    obtain ⟨below, hbelow, rfl⟩ := List.mem_map.mp hc
    obtain ⟨reference, hreference⟩ := hfrom below hbelow
    rcases followReference_eq_ok hreference with ⟨shape, hleaf, rfl⟩ | ⟨name, hname⟩
    · exact .inl hleaf
    · exact .inr ⟨_, _, name, below, hname, rfl⟩

/-- Every shape in a resolved tree is a leaf that refers to nothing, or what some name is resolved
to. -/
theorem exists_resolveAt_of_descent {path : List String} {depth : Nat} {name : Document}
    {r : Resolution} (h : resolveAt table limit path depth name = .ok r) {above : List Shape}
    {t : Shape} (hdescent : Shape.Descent r.shape above t) :
    t.IsLeaf ∨ ∃ path depth name below,
      resolveAt table limit path depth name = .ok below ∧ below.shape = t := by
  generalize hs : r.shape = s at hdescent
  induction hdescent generalizing path depth name r with
  | here s => exact .inr ⟨path, depth, name, r, h, hs⟩
  | down hc hrest ih =>
      rw [← hs] at hc
      rcases exists_resolveAt_of_mem_children h hc with hleaf | ⟨_, _, _, below, hbelow, rfl⟩
      · obtain ⟨-, rfl⟩ := hrest.eq_of_children_eq_nil hleaf.isPlain.children_eq
        exact .inl hleaf
      · exact ih hbelow rfl

/-! ## Names -/

/-- The attributes of a member have the name of its key. -/
theorem MemberInfo.name_of_ofReference {name : Scalar} {isRequired : Bool} {reference : Document}
    {info : MemberInfo} (h : MemberInfo.ofReference name isRequired reference = .ok info) :
    info.name = name.spelling := by
  simp only [MemberInfo.ofReference] at h
  split at h
  · cases h
    rfl
  · cases h

/-- The members of a record have the names of their keys, in order. -/
theorem map_name_of_resolveMembers {resolve : Document → Except Failure Resolution}
    {definition : Document} {fields : Fields} {members : List (Member Shape)}
    {refersTo : List String}
    (h : resolveMembers resolve definition fields = .ok (members, refersTo)) :
    members.map Member.name = (Fields.keys fields).map Scalar.spelling := by
  induction fields generalizing members refersTo with
  | nil =>
      cases h
      rfl
  | cons field rest ih =>
      obtain ⟨key, reference⟩ := field
      simp only [resolveMembers, bind_eq_ok_iff, pure_eq_ok_iff, Prod.exists, Prod.mk.injEq] at h
      obtain ⟨child, -, info, hinfo, restMembers, restRefersTo, hrest, rfl, -⟩ := h
      rw [List.map_cons, ih hrest, Fields.keys_cons, List.map_cons, Member.name,
        MemberInfo.name_of_ofReference hinfo]

/-- Distinct texts are spelled in distinct ways. -/
theorem Fields.HasNames.nodup_spelling {fields : Fields} (h : fields.HasNames) :
    ((Fields.keys fields).map Scalar.spelling).Nodup := by
  refine h.distinct.map_on ?_
  intro first hfirst second hsecond heq
  obtain ⟨name, rfl⟩ := h.text first hfirst
  obtain ⟨other, rfl⟩ := h.text second hsecond
  exact congrArg Scalar.text heq

/-- A leaf that refers to nothing has no members. -/
theorem Shape.IsLeaf.members_eq {s : Shape} (hs : s.IsLeaf) : s.members = [] := by
  cases hs with
  | @fallback f _ _ => cases f <;> rfl
  | _ => rfl

/-! ## Records with distinct names -/

/-- Whether the members of each record in a tree have distinct names. -/
def Shape.NamesMembers (s : Shape) : Prop :=
  ∀ above t, Shape.Descent s above t → (t.members.map Member.name).Nodup

namespace Shape.NamesMembers

variable {s : Shape}

theorem nodup (h : s.NamesMembers) : (s.members.map Member.name).Nodup := h [] s (.here s)

theorem of_mem_children (h : s.NamesMembers) {c : Shape} (hc : c ∈ s.children) :
    c.NamesMembers :=
  fun above t hdescent => h (s :: above) t (.down hc hdescent)

theorem of_mem_members (h : s.NamesMembers) {m : Member Shape} (hm : m ∈ s.members) :
    m.shape.NamesMembers :=
  h.of_mem_children (mem_children_of_mem_members hm)

end Shape.NamesMembers

section Table

variable {kind : Scalar → Prop}

/-- The members of a definition have distinct texts as keys where all objects in it have. -/
theorem hasNames_of_memberFields? {definition : Document} {fields : Fields}
    (hdefinition : definition.IsMadeOf kind) (h : memberFields? definition = some fields) :
    fields.HasNames := by
  unfold memberFields? at h
  split at h
  · cases h
    exact .nil
  · rename_i hmembers
    rcases hdefinition.getD_cases "members" with hnull | hmade
    · exact absurd hnull hmembers
    · cases hvalue : definition.getD "members" with
      | object found =>
          rw [hvalue] at h hmade
          cases h
          exact hmade.names
      | _ =>
          rw [hvalue] at h
          cases h

/-- Where the keys of a definition are distinct texts, the members of the record that it is expanded
to have distinct names. -/
theorem nodup_names_of_expand {resolve : Document → Except Failure Resolution} {name : String}
    {definition : Document} {container : Container} {r : Resolution}
    (hdefinition : definition.IsMadeOf kind)
    (h : expand resolve name definition container = .ok r) :
    (r.shape.members.map Member.name).Nodup := by
  cases container with
  | record =>
      simp only [expand] at h
      split at h
      · rename_i fields hfields
        simp only [bind_eq_ok_iff, pure_eq_ok_iff, Prod.exists] at h
        obtain ⟨members, refersTo, hmembers, rfl⟩ := h
        change (members.map Member.name).Nodup
        rw [map_name_of_resolveMembers hmembers]
        exact (hasNames_of_memberFields? hdefinition hfields).nodup_spelling
      · rw [pure_eq_ok_iff] at h
        subst h
        exact List.nodup_nil
  | list =>
      simp only [expand, bind_eq_ok_iff, pure_eq_ok_iff] at h
      obtain ⟨element, -, rfl⟩ := h
      exact List.nodup_nil
  | map =>
      simp only [expand, bind_eq_ok_iff, pure_eq_ok_iff] at h
      obtain ⟨key, -, value, -, rfl⟩ := h
      exact List.nodup_nil

/-- What a name is resolved to is no record, or one whose members have distinct names. -/
theorem nodup_names_of_resolveAt (htable : (Document.object table).IsMadeOf kind)
    {path : List String} {depth : Nat} {name : Document} {r : Resolution}
    (h : resolveAt table limit path depth name = .ok r) :
    (r.shape.members.map Member.name).Nodup := by
  rw [resolveAt_eq_step] at h
  unfold resolveStep at h
  split at h
  · split at h
    · cases h
      exact List.nodup_nil
    · split at h
      · cases h
        exact List.nodup_nil
      · split at h
        · rename_i fields hget
          split at h
          · rename_i shape hclassify
            cases h
            simp [Resolution.leaf, (isLeaf_of_classify hclassify).members_eq]
          · exact nodup_names_of_expand (htable.get? hget) h
        · cases h
          exact List.nodup_nil
  · cases h
    exact List.nodup_nil

/-- Where the keys of a table and of all objects in it are distinct texts, the members of each
record in a resolved tree have distinct names. -/
theorem Shape.namesMembers_of_resolve (htable : (Document.object table).IsMadeOf kind)
    {name : Document} {s : Shape} (h : Shape.resolve table limit name = .ok s) :
    s.NamesMembers := by
  obtain ⟨r, hr, rfl⟩ := Shape.resolve_eq_ok h
  intro above t hdescent
  rcases exists_resolveAt_of_descent hr hdescent with hleaf | ⟨_, _, _, below, hbelow, rfl⟩
  · simp [hleaf.members_eq]
  · exact nodup_names_of_resolveAt htable hbelow

end Table

/-! ## Definitions -/

/-- A definition whose fields are texts. -/
def textFields (fields : List (String × String)) : Document :=
  .ofPairs (fields.map fun f => (f.1, .text f.2))

/-- Such a definition is made of any scalars among which texts are, if its fields have distinct
names. -/
theorem isMadeOf_textFields {kind : Scalar → Prop} (htext : ∀ text, kind (.text text))
    {fields : List (String × String)} (hnodup : (fields.map Prod.fst).Nodup) :
    (textFields fields).IsMadeOf kind := by
  refine .ofPairs ?_ (List.forall_mem_map.mpr fun f _ => .scalar (htext f.2))
  rwa [List.map_map]

/-- The definition of a record that requires some members, with the names that its members refer
to. -/
def recordDefinition (required : List String) (members : List (String × String)) : Document :=
  .ofPairs [("type", .text "structure"), ("required", .ofTexts required),
    ("members", textFields members)]

/-- So is such a definition if its members have distinct names. -/
theorem isMadeOf_recordDefinition {kind : Scalar → Prop} (htext : ∀ text, kind (.text text))
    (required : List String) {members : List (String × String)}
    (hnodup : (members.map Prod.fst).Nodup) :
    (recordDefinition required members).IsMadeOf kind := by
  have hrequired : (Document.ofTexts required).IsMadeOf kind :=
    .list (List.forall_mem_map.mpr fun name _ => .scalar (htext name))
  have hkeys : ["type", "required", "members"].Nodup := by decide
  refine .ofPairs hkeys ?_
  simp only [List.forall_mem_cons, List.not_mem_nil, false_implies, implies_true, and_true]
  exact ⟨.scalar (htext "structure"), hrequired, isMadeOf_textFields htext hnodup⟩

end ServiceShell
