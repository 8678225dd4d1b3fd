import ServiceShell.Host.Mapping
import ServiceShell.Shape.Fallback
import ServiceShell.Proofs.Shape.Resolution

/-!
# Notes on types

A type of the host shell that says less than its shape carries a note that explains why. The note
is found where the shape was resolved, or where it was mapped; a list hands on the note of its
elements, unless it has one of its own.

Main results:

- Theorem `Shape.allKnown_of_resolve`: every shape in a resolved tree is one that the table of rules
  knows, or an `any` with a reason.
- Theorem `Shape.claimingRules_ne_nil`: some rule claims each shape that is known, but for `any`.
- Theorem `Shape.isNoted_type`: a type that ends in `any` has a note, and any other type has one
  only if a list refers back to itself.
-/

namespace ServiceShell

/-! ## Known shapes -/

namespace Shape

/-- Whether enough is known about a shape for a type or a note: the type of a primitive value is one
of those that there are, and an `any` has a reason. -/
def isKnown : Shape → Bool
  | .scalar _ type => scalarTypes.contains type
  | .any _ reason _ _ _ => reason ≠ ""
  | _ => true

/-- Whether all shapes of a tree are known. -/
def AllKnown (s : Shape) : Prop := ∀ above t, Descent s above t → t.isKnown = true

theorem AllKnown.isKnown {s : Shape} (hs : s.AllKnown) : s.isKnown = true := hs [] s (.here s)

theorem AllKnown.of_mem_children {s c : Shape} (hs : s.AllKnown) (hc : c ∈ s.children) :
    c.AllKnown :=
  fun above t hdescent => hs (s :: above) t (.down hc hdescent)

theorem AllKnown.of_children {s : Shape} (hs : s.isKnown = true)
    (hchildren : ∀ c ∈ s.children, c.AllKnown) : s.AllKnown := by
  intro above t hdescent
  cases hdescent with
  | here => exact hs
  | down hc hrest => exact hchildren _ hc _ t hrest

theorem isKnown_of_isContainer {s : Shape} (hs : s.isContainer = true) : s.isKnown = true := by
  cases s <;> first | rfl | cases hs

theorem isKnown_fallback (f : Fallback) (info : ShapeInfo) : (f.shape info).isKnown = true := by
  have hreason : decide (f.reason ≠ "") = true := decide_eq_true f.reason_ne_empty
  cases f <;> exact hreason

theorem IsLeaf.isKnown {s : Shape} (hs : s.IsLeaf) : s.isKnown = true := by
  cases hs with
  | @fallback f info _ => exact isKnown_fallback f info
  | scalar htype => exact htype
  | choice => rfl

/-- All shapes in a resolution are known. -/
theorem allKnown_of_resolveAt {table : Fields} {limit : Option Int} {path : List String}
    {depth : Nat} {name : Document} {r : Resolution}
    (h : resolveAt table limit path depth name = .ok r) : r.shape.AllKnown := by
  refine resolveAt_induction (motive := fun _ _ r => r.shape.AllKnown) ?leaf ?back ?node h
  case leaf =>
    intro _ _ shape hleaf
    refine .of_children hleaf.isKnown ?_
    intro c hc
    have hnone : c ∈ ([] : List Shape) := hleaf.isPlain.children_eq ▸ hc
    cases hnone
  case back =>
    intro _ _ name _
    refine .of_children (isKnown_fallback (.cycle name) { name := some name }) ?_
    intro c hc
    cases hc
  case node =>
    intro _ _ name children r _ _ _ hexpansion ih
    refine .of_children (isKnown_of_isContainer hexpansion.isContainer_eq) ?_
    intro c hc
    rw [hexpansion.children_eq] at hc
    obtain ⟨child, hchild, rfl⟩ := List.mem_map.mp hc
    exact ih child hchild

/-- All shapes in a tree that is resolved are known. -/
theorem allKnown_of_resolve {table : Fields} {limit : Option Int} {name : Document} {s : Shape}
    (h : Shape.resolve table limit name = .ok s) : s.AllKnown := by
  obtain ⟨r, hr, rfl⟩ := resolve_eq_ok h
  exact allKnown_of_resolveAt hr

end Shape

/-! ## Rules -/

/-- Whether a type is neither `any` nor a list, and so has no elements, and needs no note and has
none. -/
structure HostType.IsExact (t : HostType) : Prop where
  /-- It has no elements. -/
  element_eq : t.element = none
  /-- It has no note. -/
  note_eq : t.note = none
  /-- It is not `any`. -/
  ne_any : t.kind ≠ .any
  /-- It is no list. -/
  ne_list : t.kind ≠ .list

theorem isExact_plain (kind : TypeKind) (hany : kind ≠ .any) (hlist : kind ≠ .list) :
    (HostType.plain kind).IsExact :=
  ⟨rfl, rfl, hany, hlist⟩

/-- Primitive types map to exact types. -/
theorem isExact_of_primitiveKind? {type : String} {kind : TypeKind}
    (h : primitiveKind? type = some kind) : (HostType.plain kind).IsExact := by
  unfold primitiveKind? at h
  split at h <;> cases h <;> exact isExact_plain _ nofun nofun

/-- Each type of primitive values is mapped, if only by a rule of its own. -/
theorem isSome_primitiveKind? : ∀ type ∈ scalarTypes,
    type = "timestamp" ∨ type = "blob" ∨ (primitiveKind? type).isSome = true := by
  decide

/-- Whatever rule claims a primitive value, it gives an exact type. -/
theorem isExact_of_apply_scalar {rule : MappingRule} (hrule : rule ∈ MappingRule.all)
    {element t : HostType} {info : ShapeInfo} {type : String} {context : TypeContext}
    (h : rule.apply element (.scalar info type) context = some t) : t.IsExact := by
  simp only [MappingRule.all, List.mem_cons, List.not_mem_nil, or_false] at hrule
  rcases hrule with rfl | rfl | rfl | rfl | rfl | rfl | rfl | rfl | rfl
  · simp only [MappingRule.choice] at h
    split at h
    · rename_i heq
      cases heq
    · split at h <;> cases h
      exact ⟨rfl, rfl, nofun, nofun⟩
    · cases h
  · obtain ⟨-, heq⟩ := Option.ite_none_right_eq_some.mp h
    cases heq
    exact isExact_plain _ nofun nofun
  · obtain ⟨-, heq⟩ := Option.ite_none_right_eq_some.mp h
    cases heq
    exact isExact_plain _ nofun nofun
  · obtain ⟨-, heq⟩ := Option.ite_none_right_eq_some.mp h
    cases heq
    exact isExact_plain _ nofun nofun
  · obtain ⟨kind, hkind, rfl⟩ := Option.map_eq_some_iff.mp h
    exact isExact_of_primitiveKind? hkind
  all_goals cases h

namespace Shape

/-- Some rule claims each shape that is known, but for `any`, whatever its elements map to. -/
theorem exists_apply_of_isKnown {s : Shape} (hs : s.isKnown = true) (hkind : s.kind ≠ "any")
    (element : HostType) (context : TypeContext) :
    ∃ rule ∈ MappingRule.all, (rule.apply element s context).isSome = true := by
  cases s with
  | scalar info type =>
      have htype : type ∈ scalarTypes := by simpa [isKnown] using hs
      rcases isSome_primitiveKind? type htype with rfl | rfl | hprimitive
      · exact ⟨.timestamp, by simp [MappingRule.all], rfl⟩
      · exact ⟨.blob, by simp [MappingRule.all], rfl⟩
      · refine ⟨.primitive, by simp [MappingRule.all], ?_⟩
        rw [MappingRule.primitive, Option.isSome_map, hprimitive]
  | choice => exact ⟨.choice, by simp [MappingRule.all], rfl⟩
  | record info members refers isException =>
      refine ⟨.record, by simp [MappingRule.all], ?_⟩
      cases refers <;> rfl
  | list => exact ⟨.list, by simp [MappingRule.all], rfl⟩
  | map => exact ⟨.map, by simp [MappingRule.all], rfl⟩
  | any => exact absurd rfl hkind

/-- No shape that is known is left to the branch for those that are not recognized. -/
theorem claimingRules_ne_nil {s : Shape} (hs : s.isKnown = true) (hkind : s.kind ≠ "any")
    (context : TypeContext) : s.claimingRules context ≠ [] := by
  obtain ⟨rule, hrule, hsome⟩ :=
    exists_apply_of_isKnown hs hkind (s.elementType context) context
  have hmem : rule.name ∈ s.claimingRules context :=
    List.mem_map_of_mem (List.mem_filter.mpr ⟨hrule, hsome⟩)
  exact List.ne_nil_of_mem hmem

/-- The type of a shape is what the first rule that answers gives. -/
theorem type_eq_firstAnswer (s : Shape) (context : TypeContext) :
    s.type context = firstAnswer MappingRule.all (s.elementType context) s context := by
  cases s <;> rfl

/-- A primitive value has an exact type. -/
theorem isExact_type_scalar {info : ShapeInfo} {type : String}
    (hs : (Shape.scalar info type).isKnown = true) (context : TypeContext) :
    ((Shape.scalar info type).type context).IsExact := by
  rw [type_eq_firstAnswer, firstAnswer]
  obtain ⟨rule, hrule, hsome⟩ := exists_apply_of_isKnown hs (by simp [kind])
    ((Shape.scalar info type).elementType context) context
  cases hfirst : MappingRule.all.findSome? fun rule =>
      rule.apply ((Shape.scalar info type).elementType context) (.scalar info type) context with
  | none =>
      have hnone := List.findSome?_eq_none_iff.mp hfirst rule hrule
      rw [hnone] at hsome
      cases hsome
  | some t =>
      obtain ⟨first, hmem, happly⟩ := List.exists_of_findSome?_eq_some hfirst
      exact isExact_of_apply_scalar hmem happly

end Shape

/-! ## Notes -/

/-- The type of the innermost elements of a list; any other type is its own. -/
def HostType.innermost : HostType → HostType
  | { kind := .list, element := some e, .. } => e.innermost
  | t => t

/-- Whether a type is `any`, or a list whose innermost elements are. -/
def HostType.EndsInAny (t : HostType) : Prop := t.innermost.kind = .any

/-- Whether a shape is a list that refers back to itself, or has such a list among its elements, the
elements of these, and so on. -/
def Shape.hasCyclicList : Shape → Bool
  | .list _ element selfReferencing => selfReferencing || element.hasCyclicList
  | _ => false

/-- Whether a type that ends in `any` has a note, and any other type has one only if its shape has a
list that refers back to itself. -/
structure HostType.IsNoted (t : HostType) (cyclic : Bool) : Prop where
  /-- What ends in `any` tells why. -/
  explained : t.EndsInAny → ∃ note, t.note = some note ∧ note ≠ ""
  /-- There is a note only where there is something to tell. -/
  warranted : t.note ≠ none → t.EndsInAny ∨ cyclic = true

namespace HostType

theorem IsExact.innermost_eq {t : HostType} (ht : t.IsExact) : t.innermost = t := by
  obtain ⟨kind, element, choices, note⟩ := t
  have hlist := ht.ne_list
  cases kind <;> first | rfl | exact absurd rfl hlist

theorem IsExact.not_endsInAny {t : HostType} (ht : t.IsExact) : ¬ t.EndsInAny := by
  rw [EndsInAny, ht.innermost_eq]
  exact ht.ne_any

theorem IsExact.isNoted {t : HostType} (ht : t.IsExact) (cyclic : Bool) : t.IsNoted cyclic where
  explained hany := absurd hany ht.not_endsInAny
  warranted hnote := absurd ht.note_eq hnote

/-- An `any` with a note is noted. -/
theorem isNoted_any {note : String} (hnote : note ≠ "") (cyclic : Bool) :
    ({ kind := .any, note := some note } : HostType).IsNoted cyclic where
  explained _ := ⟨note, rfl, hnote⟩
  warranted _ := .inl rfl

/-- A list with a note of its own is noted if it ends in `any` or refers back to itself. -/
theorem isNoted_list {e : HostType} {note : String} {cyclic : Bool} (hnote : note ≠ "")
    (h : e.EndsInAny ∨ cyclic = true) :
    ({ kind := .list, element := some e, note := some note } : HostType).IsNoted cyclic where
  explained _ := ⟨note, rfl, hnote⟩
  warranted _ := h

/-- A list that hands on the note of its elements is noted if these are. -/
theorem IsNoted.list {e : HostType} {cyclic : Bool} (he : e.IsNoted cyclic) :
    ({ kind := .list, element := some e, note := e.note } : HostType).IsNoted cyclic where
  explained hany := he.explained hany
  warranted hnote := he.warranted hnote

end HostType

/-- A text that begins with another one is not empty. -/
theorem append_ne_empty {first : String} (hfirst : first ≠ "") (rest : String) :
    first ++ rest ≠ "" := by
  rw [ne_eq, String.append_eq_empty_iff, not_and_or]
  exact .inl hfirst

theorem selfReferenceNote_ne_empty (what : String) (name : Option String) :
    selfReferenceNote what name ≠ "" :=
  append_ne_empty (append_ne_empty (append_ne_empty (append_ne_empty (by decide) _) _) _) _

namespace Shape

/-- The three types that a list can have: a list of anything, when a record refers back to itself,
a table, and a list of the type of its elements, which hands on their note unless the list refers
back to itself. -/
theorem type_list_cases (info : ShapeInfo) (element : Shape) (refers : Bool)
    (context : TypeContext) :
    (∃ note, note ≠ "" ∧ (Shape.list info element refers).type context =
        { kind := .list, element := some (.plain .any), note := some note }) ∨
      (Shape.list info element refers).type context = .plain .table ∨
      (Shape.list info element refers).type context =
        { kind := .list
          element := some (element.type { fieldName := context.fieldName })
          note := if refers then some (selfReferenceNote "list" info.name)
            else (element.type { fieldName := context.fieldName }).note } := by
  cases element with
  | record elementInfo members elementRefers isException =>
      have hnote : ∀ label : String,
          s!"self-referencing structure '{label}' kept as a generic list" ≠ "" :=
        fun _ => append_ne_empty (append_ne_empty (by decide) _) _
      cases refers with
      | true => exact .inl ⟨_, hnote _, rfl⟩
      | false =>
          cases elementRefers with
          | true => exact .inl ⟨_, hnote _, rfl⟩
          | false => exact .inr (.inl rfl)
  | _ => exact .inr (.inr rfl)

/-- A type that ends in `any` has a note, and any other type has one only if a list refers back to
itself. -/
theorem isNoted_type {s : Shape} (hs : s.AllKnown) (context : TypeContext) :
    (s.type context).IsNoted s.hasCyclicList := by
  induction s using induction_children generalizing context with
  | step s ih =>
      cases s with
      | scalar => exact (isExact_type_scalar hs.isKnown context).isNoted _
      | choice info choices =>
          have hexact : HostType.IsExact { kind := .choice, choices } := ⟨rfl, rfl, nofun, nofun⟩
          exact hexact.isNoted _
      | map => exact (isExact_plain .record nofun nofun).isNoted _
      | record info members refers isException =>
          cases refers with
          | true => exact HostType.isNoted_any (selfReferenceNote_ne_empty _ _) _
          | false => exact (isExact_plain .record nofun nofun).isNoted _
      | any info reason refers isUnion reference =>
          have hreason : reason ≠ "" := of_decide_eq_true hs.isKnown
          have htype : (Shape.any info reason refers isUnion reference).type context =
              { kind := .any, note := if reason = "" then none else some reason } := rfl
          rw [htype, if_neg hreason]
          exact HostType.isNoted_any hreason _
      | list info element refers =>
          have helement := ih element List.mem_cons_self
            (hs.of_mem_children List.mem_cons_self) { fieldName := context.fieldName }
          rcases type_list_cases info element refers context with
            ⟨note, hnote, htype⟩ | htype | htype <;> rw [htype, hasCyclicList]
          · exact HostType.isNoted_list hnote (.inl rfl)
          · exact (isExact_plain .table nofun nofun).isNoted _
          · cases refers with
            | true => exact HostType.isNoted_list (selfReferenceNote_ne_empty _ _) (.inr rfl)
            | false => exact helement.list

end Shape

end ServiceShell
