import ServiceShell.Shape.Fallback
import ServiceShell.Proofs.Shape.Tree

/-!
# Trees that are cut at a depth

Below a depth nothing is left of a tree that is cut there.  What lies above the cut is the same at
the same place; a container at the depth of the cut, and a record there whose members make no sense,
become leaves that tell of the limit.  The cut also takes leaves away that refer back, so that a
container above it may lose its mark, but none gets one.

Main results:

- Definition `Shape.cut`: what is left of a tree, with the marks that its leaves still ask for.
- Structure `Shape.IsCutAt`: what a cut keeps, place by place.
- Theorems `Shape.at?_cut` and `Shape.at?_cut_eq_none`: what stands at a place of a cut tree.
- Theorem `Shape.RefersBack.of_cut`: a cut adds no reference back.
-/

namespace ServiceShell

/-! ## Shapes with other shapes below -/

namespace Shape

/-- Puts other shapes in the place of those below a shape, and gives it a mark.  A leaf stays as it
is. -/
def mapChildren (f : Shape → Shape) (mark : Bool) : Shape → Shape
  | .record info members _ isException =>
    .record info (members.map fun m => ⟨m.info, f m.shape⟩) mark isException
  | .list info element _ => .list info (f element) mark
  | .map info key value _ => .map info (f key) (f value) mark
  | s => s

/-- What a shape tells of itself: all but the shapes below it and its mark. -/
def root (s : Shape) : Shape := s.mapChildren (fun _ => .empty) false

section MapChildren

variable (f g : Shape → Shape) (mark other : Bool) (s : Shape)

@[simp] theorem isContainer_mapChildren :
    (s.mapChildren f mark).isContainer = s.isContainer := by
  cases s <;> rfl

@[simp] theorem info_mapChildren : (s.mapChildren f mark).info = s.info := by
  cases s <;> rfl

@[simp] theorem children_mapChildren :
    (s.mapChildren f mark).children = s.children.map f := by
  cases s <;> simp [mapChildren, children, Function.comp_def]

theorem root_mapChildren : (s.mapChildren f mark).root = s.root := by
  cases s <;> simp [root, mapChildren, Function.comp_def]

variable {s} in
theorem mapChildren_of_not_isContainer (hs : s.isContainer = false) :
    s.mapChildren f mark = s := by
  cases s <;> simp_all [isContainer, mapChildren]

variable {s} in
theorem selfReferencing_mapChildren (hs : s.isContainer = true) :
    (s.mapChildren f mark).selfReferencing = mark := by
  cases s <;> simp_all [isContainer, mapChildren, selfReferencing]

end MapChildren

/-! ## Cuts -/

/-- Whether a shape stands for a record whose members make no sense. -/
def isMalformedRecord : Shape → Bool
  | .any info reason _ _ _ =>
    info.name.any fun name => reason = (Fallback.malformedMembers name).reason
  | _ => false

/-- Whether some leaf of the shapes below a container refers back to the name of the container. -/
def isReferredTo (info : ShapeInfo) (below : List Shape) : Bool :=
  info.name.any fun name => (below.flatMap backReferences).contains name

/-- Whether a shape would have been expanded, had its depth allowed it. -/
def isExpandable (s : Shape) : Bool := s.isContainer || s.isMalformedRecord

/-- What is left of a tree below which only some more layers are expanded.  The containers that are
left are marked when a leaf that is left refers back to them. -/
def cut (limit : Int) : Nat → Shape → Shape
  | 0, s =>
    if s.isExpandable then (Fallback.tooDeep limit (s.info.name.getD "")).shape s.info else s
  | layers + 1, s =>
    s.mapChildren (cut limit layers) (isReferredTo s.info (s.children.map (cut limit layers)))

section Cut

variable {limit : Int} {layers : Nat} {s : Shape}

theorem exists_name_of_isMalformedRecord (hs : s.isMalformedRecord = true) :
    ∃ name, s.info.name = some name := by
  cases s with
  | any info reason refers isUnion reference =>
      obtain ⟨name, hname, -⟩ := (Option.any_eq_true _ _).mp hs
      exact ⟨name, hname⟩
  | _ => cases hs

/-- A leaf that would not have been expanded stays as it is. -/
theorem cut_of_not_isExpandable (hs : s.isExpandable = false) : s.cut limit layers = s := by
  cases layers with
  | zero => rw [cut, hs, if_neg Bool.false_ne_true]
  | succ layers =>
      have hcontainer : s.isContainer = false := (Bool.or_eq_false_iff.mp hs).1
      rw [cut, mapChildren_of_not_isContainer _ _ hcontainer]

theorem cut_zero_of_isExpandable (hs : s.isExpandable = true) :
    s.cut limit 0 = (Fallback.tooDeep limit (s.info.name.getD "")).shape s.info := by
  rw [cut, hs, if_pos rfl]

/-- What stands at a place of a cut tree is cut in its turn, by fewer layers. -/
theorem at?_cut {way : List Nat} (hway : way.length ≤ layers) :
    (s.cut limit layers).at? way = (s.at? way).map (cut limit (layers - way.length)) := by
  induction way generalizing s layers with
  | nil => rfl
  | cons index way ih =>
      obtain ⟨layers, rfl⟩ := Nat.exists_eq_add_one_of_ne_zero (by simp at hway; omega : layers ≠ 0)
      rw [at?, at?, cut, children_mapChildren, List.getElem?_map]
      cases s.children[index]? with
      | none => rfl
      | some c =>
          simp only [List.length_cons, Nat.add_le_add_iff_right] at hway
          simp only [Option.map_some, Option.bind_some, List.length_cons, Nat.add_sub_add_right]
          exact ih hway

/-- Nothing stands below the cut. -/
theorem at?_cut_eq_none {way : List Nat} (hway : layers < way.length) :
    (s.cut limit layers).at? way = none := by
  induction way generalizing s layers with
  | nil => cases hway
  | cons index way ih =>
      cases layers with
      | zero =>
          have hchildren : (s.cut limit 0).children = [] := by
            apply children_eq_nil_of_not_isContainer
            cases hs : s.isExpandable with
            | true => rw [cut_zero_of_isExpandable hs]; rfl
            | false =>
                rw [cut_of_not_isExpandable hs]
                exact (Bool.or_eq_false_iff.mp hs).1
          rw [at?, hchildren]
          rfl
      | succ layers =>
          rw [at?, cut, children_mapChildren, List.getElem?_map]
          cases s.children[index]? with
          | none => rfl
          | some c =>
              simp only [List.length_cons, Nat.add_lt_add_iff_right] at hway
              exact ih hway

/-- A cut adds no leaf that refers back. -/
theorem RefersBack.of_cut {name : String} (h : (s.cut limit layers).RefersBack name) :
    s.RefersBack name := by
  induction layers generalizing s with
  | zero =>
      cases hs : s.isExpandable with
      | true =>
          rw [cut_zero_of_isExpandable hs, RefersBack.iff_of_children_eq_nil rfl] at h
          cases h
      | false =>
          rw [cut_of_not_isExpandable hs] at h
          exact h
  | succ layers ih =>
      rw [cut] at h
      cases hs : s.isContainer with
      | true =>
          rw [RefersBack.iff_exists_child (by rw [isContainer_mapChildren, hs]),
            children_mapChildren] at h
          obtain ⟨c, hc, hback⟩ := h
          obtain ⟨below, hbelow, rfl⟩ := List.mem_map.mp hc
          exact (RefersBack.iff_exists_child hs).mpr ⟨below, hbelow, ih hback⟩
      | false =>
          rw [mapChildren_of_not_isContainer _ _ hs] at h
          exact h

/-- A container is marked in a cut only if some leaf below it refers back to its name. -/
theorem exists_refersBack_of_cut (hs : s.isContainer = true)
    (hmark : (s.cut limit layers).selfReferencing = true) :
    ∃ name, s.info.name = some name ∧ s.RefersBack name := by
  cases layers with
  | zero =>
      rw [cut_zero_of_isExpandable (by rw [isExpandable, hs, Bool.true_or])] at hmark
      cases hmark
  | succ layers =>
      rw [cut, selfReferencing_mapChildren _ _ hs, isReferredTo, Option.any_eq_true] at hmark
      obtain ⟨name, hname, hbelow⟩ := hmark
      refine ⟨name, hname, ?_⟩
      rw [List.contains_iff_mem, List.mem_flatMap] at hbelow
      obtain ⟨c, hc, hback⟩ := hbelow
      obtain ⟨below, hmem, rfl⟩ := List.mem_map.mp hc
      rw [mem_backReferences_iff] at hback
      exact (RefersBack.iff_exists_child hs).mpr ⟨below, hmem, hback.of_cut⟩

/-- A leaf that is marked in a cut was marked before. -/
theorem selfReferencing_of_cut (hs : s.isContainer = false)
    (hmark : (s.cut limit layers).selfReferencing = true) : s.selfReferencing = true := by
  cases layers with
  | zero =>
      cases hexpandable : s.isExpandable with
      | true =>
          rw [cut_zero_of_isExpandable hexpandable] at hmark
          cases hmark
      | false =>
          rw [cut_of_not_isExpandable hexpandable] at hmark
          exact hmark
  | succ layers =>
      rw [cut, mapChildren_of_not_isContainer _ _ hs] at hmark
      exact hmark

end Cut

/-- What a tree has in common with what is left of it when it is cut at a depth. -/
structure IsCutAt (limit : Nat) (whole cut : Shape) : Prop where
  /-- Above the cut, the same stands at the same place, but for marks and for what is cut below. -/
  above : ∀ way node, whole.at? way = some node → way.length < limit →
    ∃ left, cut.at? way = some left ∧ left.root = node.root
  /-- At the depth of the cut, a container or a record whose members make no sense becomes a leaf
  that tells of the limit. -/
  cutOff : ∀ way node, whole.at? way = some node → way.length = limit →
    node.isContainer = true ∨ node.isMalformedRecord = true →
      ∃ name, node.info.name = some name ∧
        cut.at? way = some ((Fallback.tooDeep limit name).shape node.info)
  /-- At the depth of the cut, any other leaf stays as it is. -/
  kept : ∀ way node, whole.at? way = some node → way.length = limit →
    node.isContainer = false → node.isMalformedRecord = false → cut.at? way = some node
  /-- Nothing stands elsewhere. -/
  only : ∀ way left, cut.at? way = some left →
    way.length ≤ limit ∧ ∃ node, whole.at? way = some node ∧
      (left.selfReferencing = true → node.selfReferencing = true)

end Shape

end ServiceShell
