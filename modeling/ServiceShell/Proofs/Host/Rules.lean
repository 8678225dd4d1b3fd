import ServiceShell.Proofs.Host.Note

/-!
# The order of the rules

The rules that claim a shape are at most two, and for most shapes there is one or none.  A table with
the same rules in another order gives the same types if the rules that claim some shape together
stand in the same order as before, and only then.

Main results:

- Definition `MappingRule.overlaps`: the pairs of rules that claim some shape together.
- Theorem `Shape.claimants_cases`: no other rules do.
- Theorem `Shape.typeWith_eq_type`: an order that keeps the overlaps keeps all types.
- Theorem `MappingRule.keepsOrder_of_typeWith_eq_type`: an order that keeps all types keeps the
  overlaps.
- Theorem `MappingRule.order_matters_for_overlaps`: both, and which rules claim some shape together.
-/

namespace ServiceShell

/-! ## Lists in two orders -/

section Lists

variable {α β : Type} {items others : List α}

/-- Items for which a function has no value do not count for the first value that it has. -/
theorem findSome?_filter_isSome (f : α → Option β) :
    (items.filter fun a => (f a).isSome).findSome? f = items.findSome? f := by
  induction items with
  | nil => rfl
  | cons a rest ih =>
      rw [List.filter_cons, List.findSome?_cons]
      cases hvalue : f a with
      | none => simpa [hvalue] using ih
      | some value => simp [hvalue]

/-- When all items that are wanted stand in a list in some order, they are what is wanted of any
list with the same items in which they stand in that order. -/
theorem filter_eq_of_perm {wanted : α → Bool} {found : List α} (hperm : others.Perm items)
    (hfound : found.Perm (items.filter wanted)) (horder : found.Sublist others) :
    others.filter wanted = found := by
  have hall : found.filter wanted = found := by
    rw [List.filter_eq_self]
    intro a ha
    exact List.of_mem_filter (hfound.mem_iff.mp ha)
  have hsublist : found.Sublist (others.filter wanted) := hall ▸ horder.filter wanted
  have hlength : found.length = (others.filter wanted).length :=
    (hfound.trans (hperm.symm.filter wanted)).length_eq
  exact (hsublist.eq_of_length hlength).symm

/-- Of two items of a list, one stands before the other. -/
theorem pair_sublist_or {a b : α} (ha : a ∈ items) (hb : b ∈ items) (hne : a ≠ b) :
    [a, b].Sublist items ∨ [b, a].Sublist items := by
  obtain ⟨before, after, rfl⟩ := List.append_of_mem ha
  rcases List.mem_append.mp hb with hbefore | hafter
  · right
    exact (List.singleton_sublist.mpr hbefore).append
      (List.singleton_sublist.mpr List.mem_cons_self)
  · left
    have hmem := (List.mem_cons.mp hafter).resolve_left hne.symm
    exact ((List.singleton_sublist.mpr hmem).cons_cons a).trans (List.sublist_append_right before _)

end Lists

/-! ## Overlaps -/

namespace MappingRule

/-- The pairs of rules that claim some shape together, the first before the second in the table. -/
def overlaps : List (MappingRule × MappingRule) :=
  [(choice, primitive), (byteSize, primitive), (table, list)]

/-- Whether the rules that claim some shape together stand in a table as they should. -/
def KeepsOrder (rules : List MappingRule) : Prop :=
  ∀ pair ∈ overlaps, [pair.1, pair.2].Sublist rules

end MappingRule

namespace Shape

/-- The rules of a table that claim a shape, in order. -/
def claimants (rules : List MappingRule) (s : Shape) (context : TypeContext) : List MappingRule :=
  rules.filter fun rule => (rule.apply (s.elementType context) s context).isSome

theorem claimingRules_eq (s : Shape) (context : TypeContext) :
    s.claimingRules context = (s.claimants MappingRule.all context).map MappingRule.name :=
  rfl

/-- Only the rules that claim a shape count for its type. -/
theorem firstAnswer_eq (rules : List MappingRule) (s : Shape) (context : TypeContext) :
    firstAnswer rules (s.elementType context) s context =
      ((s.claimants rules context).findSome? fun rule =>
        rule.apply (s.elementType context) s context).getD s.unmapped := by
  rw [firstAnswer, claimants, findSome?_filter_isSome]

/-- The first of the rules that claim a shape gives the type. -/
theorem apply_of_claimants_eq_cons {rules rest : List MappingRule} {rule : MappingRule} {s : Shape}
    {context : TypeContext} (h : s.claimants rules context = rule :: rest) :
    rule.apply (s.elementType context) s context =
      some (firstAnswer rules (s.elementType context) s context) := by
  have hrule : rule ∈ s.claimants rules context := h ▸ List.mem_cons_self
  obtain ⟨t, ht⟩ := Option.isSome_iff_exists.mp (List.mem_filter.mp hrule).2
  rw [firstAnswer_eq, h, List.findSome?_cons, ht]
  rfl

/-! ## Which rules claim a shape -/

/-- The types of numbers are primitive, and no rule of their own claims them. -/
theorem numericTypes_spec : ∀ type ∈ numericTypes, (primitiveKind? type).isSome = true ∧
    type ≠ "string" ∧ type ≠ "timestamp" ∧ type ≠ "blob" := by
  decide

/-- Of primitive values, only texts can be choices. -/
theorem choice_apply_scalar (element : HostType) (info : ShapeInfo) {type : String}
    (htype : type ≠ "string") (context : TypeContext) :
    MappingRule.choice.apply element (.scalar info type) context = none := by
  simp only [MappingRule.choice]
  split
  · rename_i heq
    cases heq
  · rename_i heq
    cases heq
    exact absurd rfl htype
  · rfl

/-- A text is claimed as a primitive value, and as a choice if it has allowed values. -/
theorem claimants_text (info : ShapeInfo) (context : TypeContext) :
    (Shape.scalar info "string").claimants MappingRule.all context = [.choice, .primitive] ∨
      (Shape.scalar info "string").claimants MappingRule.all context = [.primitive] := by
  obtain ⟨field, constraints⟩ := context
  rcases constraints with _ | ⟨least, greatest, pattern, _ | _ | ⟨choice, choices⟩⟩
  · exact .inr rfl
  · exact .inr rfl
  · exact .inr rfl
  · exact .inl rfl

/-- A primitive value that is no text is claimed by one rule at most, unless it is a number whose
name looks like a byte count. -/
theorem claimants_scalar (info : ShapeInfo) {type : String} (htype : type ≠ "string")
    (context : TypeContext) :
    (Shape.scalar info type).claimants MappingRule.all context =
      if type ∈ numericTypes ∧ context.fieldName.any isByteSize = true then
        [.byteSize, .primitive]
      else if type = "timestamp" then [.timestamp]
      else if type = "blob" then [.blob]
      else if (primitiveKind? type).isSome then [.primitive]
      else [] := by
  simp only [claimants, MappingRule.all, List.filter_cons, List.filter_nil,
    choice_apply_scalar _ info htype, MappingRule.byteSize, MappingRule.timestamp,
    MappingRule.blob, MappingRule.primitive, MappingRule.table, MappingRule.list, MappingRule.map,
    MappingRule.record, Option.isSome_map, Bool.and_eq_true, List.contains_iff_mem]
  by_cases hsize : type ∈ numericTypes ∧ context.fieldName.any isByteSize = true
  · obtain ⟨hprimitive, -, htime, hblob⟩ := numericTypes_spec type hsize.1
    simp [hsize, hprimitive, htime, hblob]
  · by_cases htime : type = "timestamp"
    · subst htime
      simp [hsize, primitiveKind?]
    · by_cases hblob : type = "blob"
      · subst hblob
        simp [hsize, primitiveKind?]
      · simp [hsize, htime, hblob]

/-- A shape is claimed by one rule at most, or by the two of an overlap. -/
theorem claimants_cases (s : Shape) (context : TypeContext) :
    (s.claimants MappingRule.all context).length ≤ 1 ∨
      ∃ pair ∈ MappingRule.overlaps,
        s.claimants MappingRule.all context = [pair.1, pair.2] := by
  cases s with
  | scalar info type =>
      by_cases htext : type = "string"
      · subst htext
        rcases claimants_text info context with hboth | hone
        · exact .inr ⟨(.choice, .primitive), by simp [MappingRule.overlaps], hboth⟩
        · exact .inl (by simp [hone])
      · rw [claimants_scalar info htext]
        split_ifs
        · exact .inr ⟨(.byteSize, .primitive), by simp [MappingRule.overlaps], rfl⟩
        all_goals exact .inl (by simp)
  | choice => exact .inl (Nat.le_refl 1)
  | record info members refers isException => cases refers <;> exact .inl (Nat.le_refl 1)
  | list info element refers =>
      cases element with
      | record elementInfo members elementRefers isException =>
          refine .inr ⟨(.table, .list), by simp [MappingRule.overlaps], ?_⟩
          cases refers <;> cases elementRefers <;> rfl
      | _ => exact .inl (Nat.le_refl 1)
  | map => exact .inl (Nat.le_refl 1)
  | any => exact .inl (Nat.zero_le 1)

/-! ## Types by a table in another order -/

/-- A table that gives the children of a shape their types gives it what its first claimant
says. -/
theorem typeWith_eq_firstAnswer {rules : List MappingRule} {s : Shape}
    (h : ∀ c ∈ s.children, ∀ context, c.typeWith rules context = c.type context)
    (context : TypeContext) :
    s.typeWith rules context = firstAnswer rules (s.elementType context) s context := by
  cases s with
  | list info element refers =>
      rw [typeWith, h element List.mem_cons_self]
      rfl
  | _ => rfl

variable {rules : List MappingRule}

/-- In an order that keeps the overlaps the same rules claim a shape in the same order. -/
theorem claimants_eq_of_keepsOrder (hperm : rules.Perm MappingRule.all)
    (horder : MappingRule.KeepsOrder rules) (s : Shape) (context : TypeContext) :
    s.claimants rules context = s.claimants MappingRule.all context := by
  refine filter_eq_of_perm hperm (.refl _) ?_
  rcases claimants_cases s context with hfew | ⟨pair, hpair, hboth⟩
  · cases hclaimants : s.claimants MappingRule.all context with
    | nil => exact List.nil_sublist rules
    | cons rule rest =>
        rw [hclaimants, List.length_cons] at hfew
        obtain rfl : rest = [] := List.eq_nil_of_length_eq_zero (by omega)
        have hrule : rule ∈ s.claimants MappingRule.all context := by
          rw [hclaimants]
          exact List.mem_cons_self
        exact List.singleton_sublist.mpr (hperm.mem_iff.mpr (List.mem_of_mem_filter hrule))
  · rw [hboth]
    exact horder pair hpair

/-- An order that keeps the overlaps keeps all types. -/
theorem typeWith_eq_type (hperm : rules.Perm MappingRule.all)
    (horder : MappingRule.KeepsOrder rules) (s : Shape) (context : TypeContext) :
    s.typeWith rules context = s.type context := by
  induction s using induction_children generalizing context with
  | step s ih =>
      rw [typeWith_eq_firstAnswer ih, type_eq_firstAnswer, firstAnswer_eq, firstAnswer_eq,
        claimants_eq_of_keepsOrder hperm horder]

end Shape

namespace MappingRule

/-! ## The overlaps -/

/-- For each overlap there is a shape that the two rules claim together, and for which they give
types of two kinds. -/
theorem exists_claimants_of_overlap : ∀ pair ∈ overlaps, ∃ (s : Shape) (context : TypeContext),
    s.claimants all context = [pair.1, pair.2] ∧
      (pair.1.apply (s.elementType context) s context).map HostType.kind ≠
        (pair.2.apply (s.elementType context) s context).map HostType.kind := by
  simp only [overlaps, List.forall_mem_cons, List.not_mem_nil, false_implies, implies_true,
    and_true]
  refine ⟨?text, ?number, ?list⟩
  case text =>
    exact ⟨.scalar {} "string", { constraints := some { choices := some ["on"] } }, rfl,
      by decide⟩
  case number => exact ⟨.scalar {} "long", .ofField "Size", rfl, by decide⟩
  case list => exact ⟨.list {} .empty false, {}, rfl, by decide⟩

variable {rules : List MappingRule}

/-- An order that keeps all types keeps the overlaps: the other rule of an overlap would answer
first. -/
theorem keepsOrder_of_typeWith_eq_type (hperm : rules.Perm all)
    (h : ∀ (s : Shape) context, s.typeWith rules context = s.type context) :
    KeepsOrder rules := by
  intro pair hpair
  obtain ⟨s, context, hclaimants, hkinds⟩ := exists_claimants_of_overlap pair hpair
  have hmem : ∀ rule ∈ s.claimants all context, rule ∈ rules := fun rule hrule =>
    hperm.mem_iff.mpr (List.mem_of_mem_filter hrule)
  have hne : pair.1 ≠ pair.2 := fun heq => hkinds (by rw [heq])
  rcases pair_sublist_or (hmem pair.1 (by simp [hclaimants])) (hmem pair.2 (by simp [hclaimants]))
    hne with horder | hother
  · exact horder
  · have hswapped : s.claimants rules context = [pair.2, pair.1] := by
      refine filter_eq_of_perm hperm ?_ hother
      change [pair.2, pair.1].Perm (s.claimants all context)
      rw [hclaimants]
      exact .swap _ _ []
    have hsame : firstAnswer rules (s.elementType context) s context =
        firstAnswer all (s.elementType context) s context := by
      rw [← Shape.typeWith_eq_firstAnswer (fun c _ => h c), ← Shape.type_eq_firstAnswer, h]
    refine absurd ?_ hkinds
    rw [Shape.apply_of_claimants_eq_cons hclaimants, Shape.apply_of_claimants_eq_cons hswapped,
      hsame]

/-- A table with the same rules in another order gives all shapes the same types in all contexts, the
elements of lists mapped by the same table, exactly if it has the first rule of each overlap before
the second.  One rule at most claims a shape, or the two of an overlap do, and each overlap
occurs. -/
theorem order_matters_for_overlaps (hperm : rules.Perm all) :
    (KeepsOrder rules ↔ ∀ (s : Shape) context, s.typeWith rules context = s.type context) ∧
      (∀ (s : Shape) context, (s.claimingRules context).length ≤ 1 ∨
        ∃ pair ∈ overlaps, s.claimingRules context = [pair.1.name, pair.2.name]) ∧
      ∀ pair ∈ overlaps, ∃ (s : Shape) (context : TypeContext),
        s.claimingRules context = [pair.1.name, pair.2.name] := by
  refine ⟨⟨?keeps, ?needs⟩, ?only, ?each⟩
  case keeps => exact fun horder => Shape.typeWith_eq_type hperm horder
  case needs => exact keepsOrder_of_typeWith_eq_type hperm
  case only =>
    intro s context
    rw [Shape.claimingRules_eq, List.length_map]
    rcases Shape.claimants_cases s context with hfew | ⟨pair, hpair, hboth⟩
    · exact .inl hfew
    · exact .inr ⟨pair, hpair, by rw [hboth]; rfl⟩
  case each =>
    intro pair hpair
    obtain ⟨s, context, hclaimants, -⟩ := exists_claimants_of_overlap pair hpair
    exact ⟨s, context, by rw [Shape.claimingRules_eq, hclaimants]; rfl⟩

/-- The rules for lists, maps and records before those for primitive values. -/
def containersFirst : List MappingRule :=
  [table, list, map, record] ++ [choice, byteSize, timestamp, blob, primitive]

/-- It does not matter whether the rules for primitive values stand first, but the table must not be
reversed. -/
theorem order_matters_for_containersFirst :
    (∀ (s : Shape) context, s.typeWith containersFirst context = s.type context) ∧
      ¬ ∀ (s : Shape) context, s.typeWith all.reverse context = s.type context := by
  constructor
  · refine (order_matters_for_overlaps List.perm_append_comm).1.mp ?_
    have hprimitive : ∀ rule ∈ [choice, byteSize, timestamp, blob],
        [rule, primitive].Sublist containersFirst := fun rule hrule =>
      ((List.singleton_sublist.mpr hrule).append (.refl [primitive])).trans
        (List.sublist_append_right [table, list, map, record] _)
    intro pair hpair
    simp only [overlaps, List.mem_cons, List.not_mem_nil, or_false] at hpair
    rcases hpair with rfl | rfl | rfl
    · exact hprimitive choice (by simp)
    · exact hprimitive byteSize (by simp)
    · exact List.sublist_append_left [table, list] _
  · rw [← (order_matters_for_overlaps all.reverse_perm).1]
    intro horder
    have hnames := (horder (choice, primitive) (by simp [overlaps])).map name
    exact absurd hnames (by decide)

end MappingRule

end ServiceShell
