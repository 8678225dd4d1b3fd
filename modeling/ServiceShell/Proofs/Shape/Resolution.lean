import ServiceShell.Proofs.Document.Fields
import ServiceShell.Proofs.Result
import ServiceShell.Proofs.Shape.Tree
import ServiceShell.Shape.Resolve

/-!
# What resolution returns

Resolution of a name ends at once with a leaf, refers back to a name on the path, or expands a
container from the resolutions of the references in its definition.  This module says what an
expansion consists of, and turns the three cases into an induction principle for all trees that
resolution returns.

Main results:

- Theorem `expand_eq_ok`: an expanded container is put together from its children.
- Theorem `resolveAt_induction`: induction over what resolution returns.
-/

namespace ServiceShell

/-! ## Parts of a table -/

/-- Whether a definition is that of a record, a list or a map. -/
def definesContainer (definition : Document) : Bool :=
  ((definition.getD "type").text?.bind Container.ofType?).isSome

/-- The entries of a table that define records, lists and maps. -/
def containerEntries (table : Fields) : Fields :=
  table.filter fun entry => definesContainer entry.2

/-- Following a container that is not on the path leaves fewer containers to visit. -/
theorem unvisited_containers_lt {table : Fields} {path : List String} {name : String}
    (hpath : name ∉ path) (hkey : .text name ∈ Fields.keys (containerEntries table)) :
    unvisited (containerEntries table) (name :: path) <
      unvisited (containerEntries table) path := by
  obtain ⟨definition, hget⟩ := Fields.exists_get?_of_mem_keys hkey
  exact unvisited_cons_lt hpath hget

/-- A container that is found in a table is one of its containers. -/
theorem mem_keys_containerEntries {table : Fields} {name : String} {definition : Document}
    (hget : Fields.get? name table = some definition)
    (hdefines : definesContainer definition = true) :
    .text name ∈ Fields.keys (containerEntries table) := by
  refine List.mem_map.mpr ⟨(.text name, definition), ?_, rfl⟩
  exact List.mem_filter.mpr ⟨Fields.mem_of_get? hget, hdefines⟩

/-! ## Leaves -/

/-- Whether a shape is a leaf that refers to nothing. -/
structure Shape.IsPlain (s : Shape) : Prop where
  /-- It is no record, list or map. -/
  isContainer_eq : s.isContainer = false
  /-- It does not refer back. -/
  backReference?_eq : s.backReference? = none

theorem Shape.IsPlain.children_eq {s : Shape} (hs : s.IsPlain) : s.children = [] :=
  Shape.children_eq_nil_of_not_isContainer hs.isContainer_eq

/-- The leaves of resolved trees that refer to nothing: what cannot be expanded, values of a
primitive type, and choices. -/
inductive Shape.IsLeaf : Shape → Prop
  /-- What cannot be expanded, but for a reference back. -/
  | fallback {f : Fallback} {info : ShapeInfo} (hf : ∀ name, f ≠ .cycle name) :
      IsLeaf (f.shape info)
  /-- A value of a primitive type. -/
  | scalar {info : ShapeInfo} {type : String} (htype : scalarTypes.contains type = true) :
      IsLeaf (.scalar info type)
  /-- A text out of some choices. -/
  | choice {info : ShapeInfo} {choices : List String} : IsLeaf (.choice info choices)

theorem Shape.IsLeaf.isPlain {s : Shape} (hs : s.IsLeaf) : s.IsPlain := by
  cases hs with
  | @fallback f info hf =>
      cases f with
      | cycle name => exact absurd rfl (hf name)
      | _ => exact ⟨rfl, rfl⟩
  | scalar => exact ⟨rfl, rfl⟩
  | choice => exact ⟨rfl, rfl⟩

/-- What a definition comes to before anything below it is looked at: a leaf that refers to nothing,
or a container of a known type above the limit. -/
theorem classify_cases {name : String} {definition : Document} {depth : Nat} {limit : Option Int}
    {result : Shape ⊕ Container} (h : classify name definition depth limit = result) :
    (∃ shape : Shape, shape.IsLeaf ∧ result = .inl shape) ∨
      ∃ container, (definition.getD "type").text?.bind Container.ofType? = some container ∧
        (∀ d, limit = some d → (depth : Int) < d) ∧ result = .inr container := by
  simp only [classify] at h
  split at h
  · exact .inl ⟨_, .fallback (by simp), h.symm⟩
  · exact .inl ⟨_, .fallback (by simp), h.symm⟩
  · rename_i htype
    split at h
    · exact .inl ⟨_, .fallback (by simp), h.symm⟩
    · split at h
      · rename_i hscalar
        split at h
        · exact .inl ⟨_, .choice, h.symm⟩
        · exact .inl ⟨_, .scalar hscalar, h.symm⟩
      · split at h
        · exact .inl ⟨_, .fallback (by simp), h.symm⟩
        · rename_i container hcontainer
          have hdefined : (definition.getD "type").text?.bind Container.ofType? =
              some container := by
            rw [htype]
            exact hcontainer
          split at h
          · split at h <;> rename_i hdepth
            · exact .inl ⟨_, .fallback (by simp), h.symm⟩
            · refine .inr ⟨container, hdefined, ?_, h.symm⟩
              intro d hd
              simp only [Option.some.injEq] at hd
              omega
          · exact .inr ⟨container, hdefined, by simp, h.symm⟩

/-- A definition that is not expanded comes to a leaf that refers to nothing. -/
theorem isLeaf_of_classify {name : String} {definition : Document} {depth : Nat}
    {limit : Option Int} {shape : Shape}
    (h : classify name definition depth limit = .inl shape) : shape.IsLeaf := by
  rcases classify_cases h with ⟨leaf, hleaf, heq⟩ | ⟨container, -, -, heq⟩
  · cases heq
    exact hleaf
  · cases heq

/-- What is to be expanded has the type of a container. -/
theorem ofType?_of_classify {name : String} {definition : Document} {depth : Nat}
    {limit : Option Int} {container : Container}
    (h : classify name definition depth limit = .inr container) :
    (definition.getD "type").text?.bind Container.ofType? = some container := by
  rcases classify_cases h with ⟨leaf, -, heq⟩ | ⟨found, hdefined, -, heq⟩
  · cases heq
  · cases heq
    exact hdefined

/-- What is to be expanded is defined as a container, and lies above the limit. -/
theorem definesContainer_of_classify {name : String} {definition : Document} {depth : Nat}
    {limit : Option Int} {container : Container}
    (h : classify name definition depth limit = .inr container) :
    definesContainer definition = true ∧ ∀ d, limit = some d → (depth : Int) < d := by
  rcases classify_cases h with ⟨leaf, -, heq⟩ | ⟨container, hdefined, hdepth, -⟩
  · cases heq
  · exact ⟨by simp [definesContainer, hdefined], hdepth⟩

/-! ## Containers -/

/-- How the resolution of a container is put together from those of its children. -/
structure Expansion (name : String) (children : List Resolution) (r : Resolution) : Prop where
  /-- It is a record, a list or a map. -/
  isContainer_eq : r.shape.isContainer = true
  /-- It has the name that was resolved. -/
  name_eq : r.shape.info.name = some name
  /-- The shapes of the children stand below it, in order. -/
  children_eq : r.shape.children = children.map Resolution.shape
  /-- It is marked when a child refers back to its name. -/
  selfReferencing_eq :
    r.shape.selfReferencing = (children.flatMap Resolution.refersTo).contains name
  /-- It refers back to what its children refer back to, but for its own name. -/
  refersTo_eq : r.refersTo = closeOver name (children.flatMap Resolution.refersTo)

/-- The members of a record have the shapes that their references are resolved to. -/
theorem resolveMembers_eq_ok {resolve : Document → Except Record.Failure Resolution}
    {definition : Document} {fields : Fields} {members : List (Member Shape)}
    {refersTo : List String}
    (h : resolveMembers resolve definition fields = .ok (members, refersTo)) :
    ∃ children : List Resolution,
      members.map Member.shape = children.map Resolution.shape ∧
        refersTo = children.flatMap Resolution.refersTo ∧
        ∀ c ∈ children, ∃ reference, followReference resolve reference = .ok c := by
  induction fields generalizing members refersTo with
  | nil =>
      simp only [resolveMembers, Except.ok.injEq, Prod.mk.injEq] at h
      obtain ⟨rfl, rfl⟩ := h
      exact ⟨[], rfl, rfl, by simp⟩
  | cons field rest ih =>
      obtain ⟨key, reference⟩ := field
      simp only [resolveMembers, bind_eq_ok_iff, pure_eq_ok_iff, Prod.exists, Prod.mk.injEq] at h
      obtain ⟨child, hchild, info, -, restMembers, restRefersTo, hrest, rfl, rfl⟩ := h
      obtain ⟨children, hshapes, hrefersTo, hfrom⟩ := ih hrest
      refine ⟨child :: children, ?_, ?_, ?_⟩
      · simp [hshapes]
      · simp [hrefersTo]
      · intro c hc
        rcases List.mem_cons.mp hc with rfl | hc
        · exact ⟨reference, hchild⟩
        · exact hfrom c hc

/-- A container that is expanded is put together from resolutions of references; only a record
whose members make no sense becomes a leaf. -/
theorem expand_eq_ok {resolve : Document → Except Record.Failure Resolution} {name : String}
    {definition : Document} {container : Container} {r : Resolution}
    (h : expand resolve name definition container = .ok r) :
    (∃ shape : Shape, shape.IsLeaf ∧ r = .leaf shape) ∨
      ∃ children, Expansion name children r ∧
        ∀ c ∈ children, ∃ reference, followReference resolve reference = .ok c := by
  cases container with
  | record =>
      simp only [expand] at h
      split at h
      · simp only [bind_eq_ok_iff, pure_eq_ok_iff, Prod.exists] at h
        obtain ⟨members, refersTo, hmembers, rfl⟩ := h
        obtain ⟨children, hshapes, rfl, hfrom⟩ := resolveMembers_eq_ok hmembers
        exact .inr ⟨children, ⟨rfl, rfl, hshapes, rfl, rfl⟩, hfrom⟩
      · rw [pure_eq_ok_iff] at h
        exact .inl ⟨_, .fallback (by simp), h.symm⟩
  | list =>
      simp only [expand, bind_eq_ok_iff, pure_eq_ok_iff] at h
      obtain ⟨element, helement, rfl⟩ := h
      refine .inr ⟨[element], ⟨rfl, rfl, rfl, by simp [Shape.selfReferencing], by simp⟩, ?_⟩
      intro c hc
      rw [List.mem_singleton.mp hc]
      exact ⟨_, helement⟩
  | map =>
      simp only [expand, bind_eq_ok_iff, pure_eq_ok_iff] at h
      obtain ⟨key, hkey, value, hvalue, rfl⟩ := h
      refine .inr ⟨[key, value], ⟨rfl, rfl, rfl, by simp [Shape.selfReferencing], by simp⟩, ?_⟩
      intro c hc
      rcases List.mem_pair.mp hc with rfl | rfl
      · exact ⟨_, hkey⟩
      · exact ⟨_, hvalue⟩

/-- What a reference is resolved to is what some name is resolved to, or a leaf. -/
theorem followReference_eq_ok {resolve : Document → Except Record.Failure Resolution}
    {reference : Document} {r : Resolution} (h : followReference resolve reference = .ok r) :
    (∃ shape : Shape, shape.IsLeaf ∧ r = .leaf shape) ∨ ∃ name, resolve name = .ok r := by
  unfold followReference at h
  split at h
  · exact .inr ⟨_, h⟩
  · exact .inr ⟨_, h⟩
  · simp only [Except.ok.injEq] at h
    exact .inl ⟨_, .fallback (by simp), h.symm⟩

/-! ## One level of resolution -/

/-- A way to resolve a name at a depth, below the shapes on a path. -/
abbrev Resolver := List String → Nat → Document → Except Record.Failure Resolution

/-- Resolves a name, and leaves all names below it to `below`. -/
def resolveStep (table : Fields) (limit : Option Int) (below : Resolver) : Resolver :=
  fun path depth name =>
    match name with
    | .text name =>
      if name = "" then .ok (.leaf (Fallback.missingReference.shape {}))
      else if name ∈ path then
        .ok ⟨(Fallback.cycle name).shape { name := some name }, [name]⟩
      else
        match Fields.get? name table with
        | some (.object fields) =>
          match classify name (.object fields) depth limit with
          | .inl shape => .ok (.leaf shape)
          | .inr container =>
            expand (below (name :: path) (depth + 1)) name (.object fields) container
        | _ => .ok (.leaf ((Fallback.undefined name).shape { name := some name }))
    | _ => .ok (.leaf (Fallback.missingReference.shape {}))

section Step

variable {table : Fields} {limit : Option Int}

/-- Resolution does at each level the same. -/
theorem resolveAt_eq_step (path : List String) (depth : Nat) (name : Document) :
    resolveAt table limit path depth name =
      resolveStep table limit (resolveAt table limit) path depth name := by
  unfold resolveStep
  split
  · rename_i name
    rw [resolveAt]
    split
    · rfl
    · split
      · rfl
      · split
        · rename_i fields hget
          cases hclassify : classify name (.object fields) depth limit <;>
            simp only [hget, hclassify]
        · rename_i hget
          split
          · rename_i fields hfields
            exact absurd hfields (hget fields)
          · rfl
  · rename_i hname
    rw [resolveAt]
    exact hname

/-- The three outcomes of one level: a leaf that refers to nothing, a leaf that refers back to a
name on the path, and a container of the table that is put together from what `below` returns. -/
theorem resolveStep_eq_ok {below : Resolver} {path : List String} {depth : Nat} {name : Document}
    {r : Resolution} (h : resolveStep table limit below path depth name = .ok r) :
    (∃ shape : Shape, shape.IsLeaf ∧ r = .leaf shape) ∨
      (∃ n ∈ path, r = ⟨(Fallback.cycle n).shape { name := some n }, [n]⟩) ∨
      ∃ n children, n ∉ path ∧ .text n ∈ Fields.keys (containerEntries table) ∧
        (∀ d, limit = some d → (depth : Int) < d) ∧ Expansion n children r ∧
        ∀ c ∈ children, ∃ reference,
          followReference (below (n :: path) (depth + 1)) reference = .ok c := by
  unfold resolveStep at h
  split at h
  · rename_i n
    split at h
    · cases h
      exact .inl ⟨_, .fallback (by simp), rfl⟩
    · split at h <;> rename_i hpath
      · cases h
        exact .inr (.inl ⟨n, hpath, rfl⟩)
      · split at h
        · rename_i fields hget
          split at h
          · rename_i shape hclassify
            cases h
            exact .inl ⟨shape, isLeaf_of_classify hclassify, rfl⟩
          · rename_i container hclassify
            obtain ⟨hdefines, hdepth⟩ := definesContainer_of_classify hclassify
            have hkey := mem_keys_containerEntries hget hdefines
            rcases expand_eq_ok h with hleaf | ⟨children, hexpansion, hfrom⟩
            · exact .inl hleaf
            · exact .inr (.inr ⟨n, children, hpath, hkey, hdepth, hexpansion, hfrom⟩)
        · cases h
          exact .inl ⟨_, .fallback (by simp), rfl⟩
  · cases h
    exact .inl ⟨_, .fallback (by simp), rfl⟩

/-! ## Induction -/

/-- Induction over what resolution returns, by the outcomes of one level.  In a container, the
children are resolved one level below it, with its name on the path. -/
theorem resolveAt_induction {motive : List String → Nat → Resolution → Prop}
    (leaf : ∀ path depth (shape : Shape), shape.IsLeaf → motive path depth (.leaf shape))
    (back : ∀ path depth name, name ∈ path →
      motive path depth ⟨(Fallback.cycle name).shape { name := some name }, [name]⟩)
    (node : ∀ path (depth : Nat) name children r, name ∉ path →
      .text name ∈ Fields.keys (containerEntries table) →
      (∀ d, limit = some d → (depth : Int) < d) → Expansion name children r →
      (∀ c ∈ children, motive (name :: path) (depth + 1) c) → motive path depth r)
    {path : List String} {depth : Nat} {name : Document} {r : Resolution}
    (h : resolveAt table limit path depth name = .ok r) : motive path depth r := by
  induction hcount : unvisited (containerEntries table) path using Nat.strongRecOn
    generalizing path depth name r with
  | _ count ih =>
      rw [resolveAt_eq_step] at h
      rcases resolveStep_eq_ok h with ⟨shape, hleaf, rfl⟩ | ⟨n, hn, rfl⟩ |
        ⟨n, children, hn, hkey, hdepth, hexpansion, hfrom⟩
      · exact leaf _ _ shape hleaf
      · exact back _ _ n hn
      · refine node _ _ n children r hn hkey hdepth hexpansion ?_
        intro c hc
        have hless := unvisited_containers_lt hn hkey
        obtain ⟨reference, hreference⟩ := hfrom c hc
        rcases followReference_eq_ok hreference with ⟨shape, hleaf, rfl⟩ | ⟨below, hbelow⟩
        · exact leaf _ _ shape hleaf
        · exact ih _ (hcount ▸ hless) hbelow rfl

/-- A tree that is resolved is the tree of a resolution below nothing. -/
theorem Shape.resolve_eq_ok {name : Document} {shape : Shape}
    (h : Shape.resolve table limit name = .ok shape) :
    ∃ r, resolveAt table limit [] 0 name = .ok r ∧ r.shape = shape := by
  unfold Shape.resolve at h
  cases hr : resolveAt table limit [] 0 name with
  | error failure => simp [hr, Except.map] at h
  | ok r =>
      refine ⟨r, rfl, ?_⟩
      simpa [hr, Except.map] using h

end Step

end ServiceShell
