import ServiceShell.Shape.Basic

/-!
# Ways down a tree of shapes

A shape is a tree: the shapes of the members of a record, the elements of a list, and the keys and
values of a map stand below it.  This module names the places of such a tree by the way that leads
there, which is how statements about whole trees are made.

Main results:

- Definition `Shape.Descent`: the ways from the root of a tree to a shape in it, with the shapes
  passed on the way.
- Theorem `Shape.RefersBack.iff_exists_child`: what a container refers back to, its children do.
- Definition `Shape.at?`: the shape at a place of a tree.
- Theorem `Shape.mem_backReferences_iff`: the names that the leaves of a tree refer back to.
-/

namespace ServiceShell

namespace Shape

/-! ## Containers and leaves -/

/-- Whether a shape is a record, a list or a map. -/
def isContainer : Shape → Bool
  | .record .. => true
  | .list .. => true
  | .map .. => true
  | _ => false

/-- The shapes directly below a shape, in order. -/
def children : Shape → List Shape
  | .record _ members _ _ => members.map Member.shape
  | .list _ element _ => [element]
  | .map _ key value _ => [key, value]
  | _ => []

/-- The name that a leaf refers back to. -/
def backReference? : Shape → Option String
  | .any _ _ true _ reference => reference
  | _ => none

/-- Whether a shape is a container with a name. -/
def isContainerNamed (name : String) (s : Shape) : Bool :=
  s.isContainer && decide (s.info.name = some name)

theorem isContainerNamed_iff {name : String} {s : Shape} :
    s.isContainerNamed name = true ↔ s.isContainer = true ∧ s.info.name = some name := by
  simp [isContainerNamed]

/-- The names of the records, lists and maps among some shapes. -/
def containerNames (shapes : List Shape) : List (Option String) :=
  (shapes.filter isContainer).map fun s => s.info.name

theorem containerNames_cons (s : Shape) (shapes : List Shape) :
    containerNames (s :: shapes) =
      if s.isContainer then s.info.name :: containerNames shapes else containerNames shapes := by
  by_cases hs : s.isContainer = true <;> simp [containerNames, hs]

/-- Only containers have children. -/
theorem isContainer_of_mem_children {s c : Shape} (hc : c ∈ s.children) :
    s.isContainer = true := by
  cases s <;> simp_all [children, isContainer]

/-- What is no container has no children. -/
theorem children_eq_nil_of_not_isContainer {s : Shape} (hs : s.isContainer = false) :
    s.children = [] := by
  cases s <;> simp_all [children, isContainer]

/-- The shapes of the members of a record are its children. -/
theorem mem_children_of_mem_members {s : Shape} {m : Member Shape} (hm : m ∈ s.members) :
    m.shape ∈ s.children := by
  cases s with
  | record => exact List.mem_map_of_mem hm
  | _ => cases hm

/-- A container is no reference back. -/
theorem backReference?_eq_none_of_isContainer {s : Shape} (hs : s.isContainer = true) :
    s.backReference? = none := by
  cases s <;> simp_all [isContainer, backReference?]

/-! ## Ways down -/

/-- `Descent s above t` leads from `s` down to `t`; `above` holds the shapes passed before `t`,
from `s` on. -/
inductive Descent : Shape → List Shape → Shape → Prop
  /-- The way that stays where it is. -/
  | here (s : Shape) : Descent s [] s
  /-- The way that goes on to a child. -/
  | down {s c t : Shape} {above : List Shape} (hc : c ∈ s.children)
      (hrest : Descent c above t) : Descent s (s :: above) t

/-- A way down from a shape without children stays where it is. -/
theorem Descent.eq_of_children_eq_nil {s t : Shape} {above : List Shape}
    (hs : s.children = []) (h : Descent s above t) : above = [] ∧ t = s := by
  cases h with
  | here => exact ⟨rfl, rfl⟩
  | down hc => simp [hs] at hc

/-! ## References back -/

/-- Some leaf at or below a shape refers back to a name. -/
def RefersBack (s : Shape) (name : String) : Prop :=
  ∃ above leaf, Descent s above leaf ∧ leaf.backReference? = some name

/-- A leaf refers back to the name it holds and to no other. -/
theorem RefersBack.iff_of_children_eq_nil {s : Shape} {name : String} (hs : s.children = []) :
    RefersBack s name ↔ s.backReference? = some name := by
  constructor
  · rintro ⟨above, leaf, hdescent, hleaf⟩
    rw [(hdescent.eq_of_children_eq_nil hs).2] at hleaf
    exact hleaf
  · intro hback
    exact ⟨[], s, .here s, hback⟩

/-- A container refers back to what its children refer back to. -/
theorem RefersBack.iff_exists_child {s : Shape} {name : String} (hs : s.isContainer = true) :
    RefersBack s name ↔ ∃ c ∈ s.children, RefersBack c name := by
  constructor
  · rintro ⟨above, leaf, hdescent, hleaf⟩
    cases hdescent with
    | here => simp [backReference?_eq_none_of_isContainer hs] at hleaf
    | down hc hrest => exact ⟨_, hc, _, leaf, hrest, hleaf⟩
  · rintro ⟨c, hc, above, leaf, hdescent, hleaf⟩
    exact ⟨s :: above, leaf, .down hc hdescent, hleaf⟩

mutual

/-- The names that the leaves of a tree refer back to, in order. -/
def backReferences : Shape → List String
  | .record _ members _ _ => memberReferences members
  | .list _ element _ => element.backReferences
  | .map _ key value _ => key.backReferences ++ value.backReferences
  | .any _ _ true _ reference => reference.toList
  | _ => []

/-- The names that the leaves below some members refer back to, in order. -/
def memberReferences : List (Member Shape) → List String
  | [] => []
  | ⟨_, shape⟩ :: rest => shape.backReferences ++ memberReferences rest

end

theorem memberReferences_eq (members : List (Member Shape)) :
    memberReferences members = (members.map Member.shape).flatMap backReferences := by
  induction members with
  | nil => rfl
  | cons m rest ih => rw [memberReferences, ih, List.map_cons, List.flatMap_cons]

/-- A container refers back to what its children refer back to. -/
theorem backReferences_of_isContainer {s : Shape} (hs : s.isContainer = true) :
    s.backReferences = s.children.flatMap backReferences := by
  cases s with
  | record => exact memberReferences_eq _
  | list => simp [backReferences, children]
  | map => simp [backReferences, children]
  | _ => cases hs

/-- A leaf refers back to the name that it holds, if it is a reference back. -/
theorem backReferences_of_not_isContainer {s : Shape} (hs : s.isContainer = false) :
    s.backReferences = s.backReference?.toList := by
  cases s with
  | any info reason refers isUnion reference => cases refers <;> rfl
  | scalar => rfl
  | choice => rfl
  | _ => cases hs

/-! ## Induction -/

/-- A child is smaller than its shape. -/
theorem sizeOf_lt_of_mem_children {s c : Shape} (hc : c ∈ s.children) : sizeOf c < sizeOf s := by
  cases s with
  | record info members refers isException =>
      obtain ⟨m, hm, rfl⟩ := List.mem_map.mp hc
      have hmember := List.sizeOf_lt_of_mem hm
      have hshape : sizeOf m.shape < sizeOf m := by
        cases m
        simp only [Member.mk.sizeOf_spec]
        omega
      simp only [record.sizeOf_spec]
      omega
  | list info element refers =>
      rw [List.mem_singleton.mp hc, list.sizeOf_spec]
      omega
  | map info key value refers =>
      simp only [children, List.mem_cons, List.not_mem_nil, or_false] at hc
      rw [map.sizeOf_spec]
      rcases hc with rfl | rfl <;> omega
  | _ => cases hc

/-- What holds of a shape when it holds of its children holds of all shapes. -/
theorem induction_children {motive : Shape → Prop}
    (step : ∀ s, (∀ c ∈ s.children, motive c) → motive s) (s : Shape) : motive s :=
  step s fun c _ => induction_children step c
termination_by sizeOf s
decreasing_by exact sizeOf_lt_of_mem_children ‹_›

/-- The names that a tree refers back to are those that some leaf of it refers back to. -/
theorem mem_backReferences_iff {s : Shape} {name : String} :
    name ∈ s.backReferences ↔ s.RefersBack name := by
  induction s using induction_children with
  | step s ih =>
      cases hs : s.isContainer with
      | true =>
          rw [backReferences_of_isContainer hs, RefersBack.iff_exists_child hs, List.mem_flatMap]
          exact exists_congr fun c => and_congr_right (ih c)
      | false =>
          rw [backReferences_of_not_isContainer hs, Option.mem_toList,
            RefersBack.iff_of_children_eq_nil (children_eq_nil_of_not_isContainer hs)]

/-! ## Places -/

/-- The shape at a place of a tree: from each shape the way goes on to the child with an index. -/
def at? (s : Shape) : List Nat → Option Shape
  | [] => some s
  | index :: way => s.children[index]?.bind fun c => c.at? way

/-- What stands at a place of a tree is found on a way down. -/
theorem exists_descent_of_at? {s t : Shape} {way : List Nat} (h : s.at? way = some t) :
    ∃ above, Descent s above t := by
  induction way generalizing s with
  | nil =>
      cases h
      exact ⟨[], .here _⟩
  | cons index way ih =>
      obtain ⟨c, hc, hrest⟩ := Option.bind_eq_some_iff.mp h
      obtain ⟨above, hdescent⟩ := ih hrest
      exact ⟨s :: above, .down (List.mem_of_getElem? hc) hdescent⟩

end Shape

end ServiceShell
