import ServiceShell.Proofs.Shape.Termination

/-!
# Marks and references back

A leaf that refers back names a container around it.  Resolution passes the names up, drops each
at the container that has it, and marks that container.  This module shows that no name is dropped
too early or passed on too far: the marks of a resolved tree tell exactly which containers some
leaf below refers back to.

The invariant is that a resolution refers to a name on its path exactly when some leaf of its tree
does.  A name of the path is not met again below, so it cannot be dropped on the way up.

Main results:

- Theorem `accounted_of_resolveAt`: resolution keeps the invariant.
- Theorem `resolve_selfReferencing_iff`: marks and references back agree in a resolved tree, and
  every reference back has exactly one container around it that it refers to.
-/

namespace ServiceShell

variable {table : Fields} {limit : Option Int}

/-! ## The invariant -/

/-- The marks and the references back of a resolution below a path are accounted for. -/
structure Accounted (path : List String) (r : Resolution) : Prop where
  /-- The names on the path that it refers to are those that a leaf refers back to. -/
  refersTo_iff : ∀ n ∈ path, n ∈ r.refersTo ↔ r.shape.RefersBack n
  /-- A container is marked exactly when a leaf below it refers back to it. -/
  selfReferencing_iff : ∀ above node n, Shape.Descent r.shape above node →
    node.isContainerNamed n = true → (node.selfReferencing = true ↔ node.RefersBack n)
  /-- A leaf that refers to a name on the path has no container of that name above it. -/
  unnamed : ∀ above leaf n, Shape.Descent r.shape above leaf → leaf.backReference? = some n →
    n ∈ path → above.filter (Shape.isContainerNamed n) = []
  /-- A leaf that refers to another name has one container of that name above it, which is
  marked. -/
  named : ∀ above leaf n, Shape.Descent r.shape above leaf → leaf.backReference? = some n →
    n ∉ path → ∃ container, above.filter (Shape.isContainerNamed n) = [container] ∧
      container.selfReferencing = true

/-- A leaf is accounted for when it refers back to what its resolution refers to, on the path. -/
theorem Accounted.of_leaf {path : List String} {r : Resolution}
    (hchildren : r.shape.children = []) (hcontainer : r.shape.isContainer = false)
    (hrefersTo : ∀ n, n ∈ r.refersTo ↔ r.shape.backReference? = some n)
    (hpath : ∀ n, r.shape.backReference? = some n → n ∈ path) : Accounted path r where
  refersTo_iff := by
    intro n _
    rw [hrefersTo, Shape.RefersBack.iff_of_children_eq_nil hchildren]
  selfReferencing_iff := by
    intro above node n hdescent hnode
    rw [(hdescent.eq_of_children_eq_nil hchildren).2, Shape.isContainerNamed_iff,
      hcontainer] at hnode
    exact absurd hnode.1 Bool.false_ne_true
  unnamed := by
    intro above leaf n hdescent _ _
    rw [(hdescent.eq_of_children_eq_nil hchildren).1]
    rfl
  named := by
    intro above leaf n hdescent hleaf hn
    rw [(hdescent.eq_of_children_eq_nil hchildren).2] at hleaf
    exact absurd (hpath n hleaf) hn

/-! ## Containers -/

section Container

variable {path : List String} {name : String} {children : List Resolution} {r : Resolution}

/-- A container has the name that was resolved, and no other. -/
theorem Expansion.isContainerNamed_iff (hexpansion : Expansion name children r) {n : String} :
    r.shape.isContainerNamed n = true ↔ n = name := by
  rw [Shape.isContainerNamed_iff, hexpansion.name_eq, Option.some.injEq]
  constructor
  · rintro ⟨-, rfl⟩
    rfl
  · rintro rfl
    exact ⟨hexpansion.isContainer_eq, rfl⟩

/-- A container refers back to a name on the path of its children exactly when one of them refers
to it. -/
theorem Expansion.refersBack_iff (hexpansion : Expansion name children r)
    (hchildren : ∀ c ∈ children, Accounted (name :: path) c) {n : String}
    (hn : n ∈ name :: path) :
    r.shape.RefersBack n ↔ n ∈ children.flatMap Resolution.refersTo := by
  rw [Shape.RefersBack.iff_exists_child hexpansion.isContainer_eq, hexpansion.children_eq,
    List.mem_flatMap]
  constructor
  · rintro ⟨s, hs, hback⟩
    obtain ⟨c, hc, rfl⟩ := List.mem_map.mp hs
    exact ⟨c, hc, ((hchildren c hc).refersTo_iff n hn).mpr hback⟩
  · rintro ⟨c, hc, hrefersTo⟩
    exact ⟨c.shape, List.mem_map_of_mem hc, ((hchildren c hc).refersTo_iff n hn).mp hrefersTo⟩

/-- A container is marked exactly when a leaf below it refers back to it. -/
theorem Expansion.selfReferencing_iff (hexpansion : Expansion name children r)
    (hchildren : ∀ c ∈ children, Accounted (name :: path) c) :
    r.shape.selfReferencing = true ↔ r.shape.RefersBack name := by
  rw [hexpansion.refersBack_iff hchildren List.mem_cons_self, hexpansion.selfReferencing_eq,
    List.contains_iff_mem]

/-- A way down from a container to a leaf goes on from one of its children. -/
theorem Expansion.exists_child (hexpansion : Expansion name children r) {above : List Shape}
    {leaf : Shape} {n : String} (hdescent : Shape.Descent r.shape above leaf)
    (hleaf : leaf.backReference? = some n) :
    ∃ c ∈ children, ∃ rest, above = r.shape :: rest ∧ Shape.Descent c.shape rest leaf := by
  cases hdescent with
  | here =>
      rw [Shape.backReference?_eq_none_of_isContainer hexpansion.isContainer_eq] at hleaf
      cases hleaf
  | down hc hrest =>
      rw [hexpansion.children_eq] at hc
      obtain ⟨c, hc', rfl⟩ := List.mem_map.mp hc
      exact ⟨c, hc', _, rfl, hrest⟩

/-- A container that is not on the path is accounted for when its children are. -/
theorem Accounted.of_expansion (hpath : name ∉ path) (hexpansion : Expansion name children r)
    (hchildren : ∀ c ∈ children, Accounted (name :: path) c) : Accounted path r where
  refersTo_iff := by
    intro n hn
    have hne : n ≠ name := by
      rintro rfl
      exact hpath hn
    rw [hexpansion.refersBack_iff hchildren (List.mem_cons_of_mem _ hn), hexpansion.refersTo_eq,
      closeOver, List.mem_filter]
    simp [hne]
  selfReferencing_iff := by
    intro above node n hdescent hnode
    cases hdescent with
    | here =>
        have hname := hexpansion.isContainerNamed_iff.mp hnode
        subst hname
        exact hexpansion.selfReferencing_iff hchildren
    | down hc hrest =>
        rw [hexpansion.children_eq] at hc
        obtain ⟨c, hc', rfl⟩ := List.mem_map.mp hc
        exact (hchildren c hc').selfReferencing_iff _ node n hrest hnode
  unnamed := by
    intro above leaf n hdescent hleaf hn
    obtain ⟨c, hc, rest, rfl, hrest⟩ := hexpansion.exists_child hdescent hleaf
    have hnamed : ¬ r.shape.isContainerNamed n = true := by
      rw [hexpansion.isContainerNamed_iff]
      rintro rfl
      exact hpath hn
    rw [List.filter_cons_of_neg hnamed]
    exact (hchildren c hc).unnamed rest leaf n hrest hleaf (List.mem_cons_of_mem _ hn)
  named := by
    intro above leaf n hdescent hleaf hn
    have hback : r.shape.RefersBack n := ⟨above, leaf, hdescent, hleaf⟩
    obtain ⟨c, hc, rest, rfl, hrest⟩ := hexpansion.exists_child hdescent hleaf
    by_cases hname : n = name
    · -- The reference is to this very container: nothing below it has the name.
      subst hname
      have hnamed : r.shape.isContainerNamed n = true :=
        hexpansion.isContainerNamed_iff.mpr rfl
      refine ⟨r.shape, ?_, (hexpansion.selfReferencing_iff hchildren).mpr hback⟩
      rw [List.filter_cons_of_pos hnamed,
        (hchildren c hc).unnamed rest leaf n hrest hleaf List.mem_cons_self]
    · have hnamed : ¬ r.shape.isContainerNamed n = true := by
        rw [hexpansion.isContainerNamed_iff]
        exact hname
      rw [List.filter_cons_of_neg hnamed]
      refine (hchildren c hc).named rest leaf n hrest hleaf ?_
      rw [List.mem_cons]
      rintro (heq | hmem)
      · exact hname heq
      · exact hn hmem

end Container

/-! ## Resolution -/

/-- What resolution returns is accounted for. -/
theorem accounted_of_resolveAt {path : List String} {depth : Nat} {name : Document}
    {r : Resolution} (h : resolveAt table limit path depth name = .ok r) : Accounted path r := by
  refine resolveAt_induction (motive := fun path _ r => Accounted path r) ?leaf ?back ?node h
  case leaf =>
    intro path depth shape hleaf
    have hplain := hleaf.isPlain
    refine .of_leaf hplain.children_eq hplain.isContainer_eq ?_ ?_
    · simp [Resolution.leaf, hplain.backReference?_eq]
    · simp [Resolution.leaf, hplain.backReference?_eq]
  case back =>
    intro path depth name hname
    refine .of_leaf rfl rfl ?_ ?_
    · simp [Fallback.shape, Shape.backReference?, eq_comm]
    · intro n hn
      simp only [Fallback.shape, Shape.backReference?, Option.some.injEq] at hn
      exact hn ▸ hname
  case node =>
    intro path depth name children r hpath _ _ hexpansion ih
    exact .of_expansion hpath hexpansion ih

/-- In a resolved tree, a container is marked as self-referencing exactly when some leaf below it
refers back to its name.  Each such leaf has exactly one container of that name above it, and that
container is marked. -/
theorem resolve_selfReferencing_iff {name : Document} {shape : Shape}
    (h : Shape.resolve table limit name = .ok shape) :
    (∀ above node n, Shape.Descent shape above node → node.isContainer = true →
      node.info.name = some n →
      (node.selfReferencing = true ↔ ∃ between leaf, Shape.Descent node between leaf ∧
        leaf.backReference? = some n)) ∧
    ∀ above leaf n, Shape.Descent shape above leaf → leaf.backReference? = some n →
      ∃ container, above.filter (Shape.isContainerNamed n) = [container] ∧
        container.selfReferencing = true := by
  obtain ⟨r, hr, rfl⟩ := Shape.resolve_eq_ok h
  have haccounted := accounted_of_resolveAt hr
  constructor
  · intro above node n hdescent hcontainer hname
    exact haccounted.selfReferencing_iff above node n hdescent
      (Shape.isContainerNamed_iff.mpr ⟨hcontainer, hname⟩)
  · intro above leaf n hdescent hleaf
    exact haccounted.named above leaf n hdescent hleaf List.not_mem_nil

/-- Folders are marked, as their entries refer back to them; the entries are not. -/
theorem folder_selfReferencing_iff :
    (folderShape.selfReferencing = true ↔ ∃ between leaf,
      Shape.Descent folderShape between leaf ∧ leaf.backReference? = some "Folder") ∧
    (entriesShape.selfReferencing = true ↔ ∃ between leaf,
      Shape.Descent entriesShape between leaf ∧ leaf.backReference? = some "Entries") ∧
    ∃ container, [folderShape, entriesShape].filter (Shape.isContainerNamed "Folder") =
      [container] ∧ container.selfReferencing = true := by
  obtain ⟨hmarks, hreferences⟩ := resolve_selfReferencing_iff resolve_folder
  have hentries : Shape.Descent folderShape [folderShape] entriesShape :=
    .down (by simp [folderShape, Shape.children]) (.here _)
  exact ⟨hmarks _ _ _ (.here _) rfl rfl, hmarks _ _ _ hentries rfl rfl,
    hreferences _ _ _ descent_folderReference rfl⟩

end ServiceShell
