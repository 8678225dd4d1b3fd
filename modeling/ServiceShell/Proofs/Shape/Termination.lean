import Mathlib.Data.List.Nodup
import ServiceShell.Proofs.Shape.Resolution

/-!
# Resolution ends, and no name is met twice

Each level of resolution puts a container of the table on the path that was not there before.  So
the levels that can lie inside one another are bounded by the containers of the table, cyclic or
not, and the names of the containers on any way down a tree are distinct.

Main results:

- Theorem `nestedResolver_eq_resolveAt`: so many levels as there are containers left, and one for
  a leaf, are all that is needed; what would be done below them does not matter.
- Theorem `descendsFreshly_of_resolveAt`: on every way down a tree, the names of the containers
  are distinct names of the table, and the limit bounds their number.
- Theorem `resolve_terminates_with_distinct_names`: both, for a name that is resolved at the root.
-/

namespace ServiceShell

variable {table : Fields} {limit : Option Int}

/-! ## Nested levels -/

/-- A number of levels of resolution inside one another; `rest` stands for all that lies deeper. -/
def nestedResolver (table : Fields) (limit : Option Int) (rest : Resolver) : Nat → Resolver
  | 0 => rest
  | layers + 1 => resolveStep table limit (nestedResolver table limit rest layers)

/-- A level of resolution only looks at names below a container that was not on the path. -/
theorem resolveStep_congr {below other : Resolver} {path : List String} {depth : Nat}
    {name : Document}
    (h : ∀ n, n ∉ path → .text n ∈ Fields.keys (containerEntries table) →
      ∀ child, below (n :: path) (depth + 1) child = other (n :: path) (depth + 1) child) :
    resolveStep table limit below path depth name =
      resolveStep table limit other path depth name := by
  unfold resolveStep
  split
  · rename_i n
    split
    · rfl
    · split <;> rename_i hpath
      · rfl
      · split
        · rename_i fields hget
          split
          · rfl
          · rename_i container hclassify
            have hdefines := (definesContainer_of_classify hclassify).1
            rw [funext (h n hpath (mem_keys_containerEntries hget hdefines))]
        · rfl
  · rfl

/-- More levels than there are containers off the path give what resolution gives, whatever
stands for the levels below them. -/
theorem nestedResolver_eq_resolveAt (rest : Resolver) {layers : Nat} {path : List String}
    {depth : Nat} {name : Document}
    (hlayers : unvisited (containerEntries table) path < layers) :
    nestedResolver table limit rest layers path depth name =
      resolveAt table limit path depth name := by
  induction layers generalizing path depth name with
  | zero => exact absurd hlayers (Nat.not_lt_zero _)
  | succ layers ih =>
      rw [nestedResolver, resolveAt_eq_step]
      apply resolveStep_congr
      intro n hn hkey child
      have hless := unvisited_containers_lt hn hkey
      exact ih (by omega)

/-! ## Names on a way down -/

/-- Names that resolution can still meet at a depth below the shapes on a path. -/
structure FreshNames (table : Fields) (limit : Option Int) (path : List String) (depth : Nat)
    (names : List String) : Prop where
  /-- No name stands twice. -/
  nodup : names.Nodup
  /-- No name is on the path. -/
  not_mem_path : ∀ n ∈ names, n ∉ path
  /-- Each name is that of a container of the table. -/
  mem_table : ∀ n ∈ names, .text n ∈ Fields.keys (containerEntries table)
  /-- The limit bounds how deep the last one lies. -/
  depth_le : ∀ d, limit = some d → (depth : Int) + names.length ≤ max d depth

theorem FreshNames.nil (path : List String) (depth : Nat) :
    FreshNames table limit path depth [] where
  nodup := List.nodup_nil
  not_mem_path := by simp
  mem_table := by simp
  depth_le := by
    intro d _
    simp only [List.length_nil]
    omega

/-- A container that is not on the path may stand before names that are fresh below it. -/
theorem FreshNames.cons {path : List String} {depth : Nat} {name : String} {names : List String}
    (hpath : name ∉ path) (hkey : .text name ∈ Fields.keys (containerEntries table))
    (hdepth : ∀ d, limit = some d → (depth : Int) < d)
    (h : FreshNames table limit (name :: path) (depth + 1) names) :
    FreshNames table limit path depth (name :: names) where
  nodup := by
    refine List.nodup_cons.mpr ⟨?_, h.nodup⟩
    intro hmem
    exact h.not_mem_path name hmem List.mem_cons_self
  not_mem_path := by
    intro n hn
    rcases List.mem_cons.mp hn with rfl | hn
    · exact hpath
    · intro hmem
      exact h.not_mem_path n hn (List.mem_cons_of_mem _ hmem)
  mem_table := by
    intro n hn
    rcases List.mem_cons.mp hn with rfl | hn
    · exact hkey
    · exact h.mem_table n hn
  depth_le := by
    intro d hd
    have habove := hdepth d hd
    have hbelow := h.depth_le d hd
    simp only [List.length_cons]
    omega

/-- There are at most as many fresh names as there are containers in the table. -/
theorem FreshNames.length_le {path : List String} {depth : Nat} {names : List String}
    (h : FreshNames table limit path depth names) :
    names.length ≤ (containerEntries table).length := by
  have hnodup : (names.map Scalar.text).Nodup := by
    refine List.Nodup.map ?_ h.nodup
    intro a b hab
    exact Scalar.text.inj hab
  have hsubset : names.map Scalar.text ⊆ Fields.keys (containerEntries table) := by
    intro key hkey
    obtain ⟨n, hn, rfl⟩ := List.mem_map.mp hkey
    exact h.mem_table n hn
  calc
    names.length = (names.map Scalar.text).length := by rw [List.length_map]
    _ ≤ (Fields.keys (containerEntries table)).length := hnodup.length_le_of_subset hsubset
    _ = (containerEntries table).length := by rw [Fields.keys, List.length_map]

/-- On every way down the tree of a resolution the containers have fresh names. -/
def DescendsFreshly (table : Fields) (limit : Option Int) (path : List String) (depth : Nat)
    (r : Resolution) : Prop :=
  ∀ above node, Shape.Descent r.shape above node →
    ∃ names, Shape.containerNames (above ++ [node]) = names.map some ∧
      FreshNames table limit path depth names

/-- A leaf has no way down on which there is a container. -/
theorem DescendsFreshly.of_leaf {path : List String} {depth : Nat} {r : Resolution}
    (hchildren : r.shape.children = []) (hcontainer : r.shape.isContainer = false) :
    DescendsFreshly table limit path depth r := by
  intro above node hdescent
  obtain ⟨rfl, rfl⟩ := hdescent.eq_of_children_eq_nil hchildren
  refine ⟨[], ?_, .nil path depth⟩
  simp [Shape.containerNames, hcontainer]

/-- A container that is not on the path keeps the names fresh. -/
theorem DescendsFreshly.of_expansion {path : List String} {depth : Nat} {name : String}
    {children : List Resolution} {r : Resolution} (hpath : name ∉ path)
    (hkey : .text name ∈ Fields.keys (containerEntries table))
    (hdepth : ∀ d, limit = some d → (depth : Int) < d) (hexpansion : Expansion name children r)
    (hchildren : ∀ c ∈ children, DescendsFreshly table limit (name :: path) (depth + 1) c) :
    DescendsFreshly table limit path depth r := by
  intro above node hdescent
  cases hdescent with
  | here =>
      refine ⟨[name], ?_, .cons hpath hkey hdepth (.nil _ _)⟩
      simp [Shape.containerNames, hexpansion.isContainer_eq, hexpansion.name_eq]
  | down hc hrest =>
      rw [hexpansion.children_eq] at hc
      obtain ⟨child, hchild, rfl⟩ := List.mem_map.mp hc
      obtain ⟨names, hnames, hfresh⟩ := hchildren child hchild _ _ hrest
      refine ⟨name :: names, ?_, .cons hpath hkey hdepth hfresh⟩
      rw [List.cons_append, Shape.containerNames_cons, if_pos hexpansion.isContainer_eq, hnames,
        hexpansion.name_eq, List.map_cons]

/-- On every way down a tree that resolution returns, the containers have fresh names. -/
theorem descendsFreshly_of_resolveAt {path : List String} {depth : Nat} {name : Document}
    {r : Resolution} (h : resolveAt table limit path depth name = .ok r) :
    DescendsFreshly table limit path depth r := by
  refine resolveAt_induction (motive := DescendsFreshly table limit) ?leaf ?back ?node h
  case leaf =>
    intro path depth shape hleaf
    exact .of_leaf hleaf.isPlain.children_eq hleaf.isPlain.isContainer_eq
  case back =>
    intro path depth name _
    exact .of_leaf rfl rfl
  case node =>
    intro path depth name children r hpath hkey hdepth hexpansion ih
    exact .of_expansion hpath hkey hdepth hexpansion ih

/-! ## Resolution of a name -/

/-- Resolution of a name never needs more levels inside one another than one more than the table
has containers: with so many, its answer does not depend on what stands for deeper ones.  In the
tree that it returns, the containers on every way down have distinct names; there are at most as
many as containers in the table, and at most as many as the limit allows. -/
theorem resolve_terminates_with_distinct_names (table : Fields) (limit : Option Int)
    (name : Document) :
    (∀ (rest : Resolver) (layers : Nat), (containerEntries table).length < layers →
      nestedResolver table limit rest layers [] 0 name = resolveAt table limit [] 0 name) ∧
    ∀ shape, Shape.resolve table limit name = .ok shape →
      ∀ above node, Shape.Descent shape above node →
        ∃ names : List String,
          Shape.containerNames (above ++ [node]) = names.map some ∧ names.Nodup ∧
            names.length ≤ (containerEntries table).length ∧
            ∀ d, limit = some d → (names.length : Int) ≤ max d 0 := by
  constructor
  · intro rest layers hlayers
    apply nestedResolver_eq_resolveAt
    exact Nat.lt_of_le_of_lt List.countP_le_length hlayers
  · intro shape hshape above node hdescent
    obtain ⟨r, hr, rfl⟩ := Shape.resolve_eq_ok hshape
    obtain ⟨names, hnames, hfresh⟩ := descendsFreshly_of_resolveAt hr above node hdescent
    refine ⟨names, hnames, hfresh.nodup, hfresh.length_le, ?_⟩
    intro d hd
    have hdepth := hfresh.depth_le d hd
    simpa using hdepth

/-! ### A cyclic table -/

/-- Folders hold a name and entries, which are folders again. -/
def folderTable : Fields :=
  [(.text "Folder", .ofPairs [("type", .text "structure"), ("members", .ofPairs [
      ("Title", .ofPairs [("shape", .text "Title")]),
      ("Entries", .ofPairs [("shape", .text "Entries")])])]),
    (.text "Entries", .ofPairs [("type", .text "list"), ("member", .text "Folder")]),
    (.text "Title", .ofPairs [("type", .text "string")])]

/-- The leaf that refers back to folders. -/
def folderReference : Shape := (Fallback.cycle "Folder").shape { name := some "Folder" }

/-- The entries of a folder: its own list refers back further up only. -/
def entriesShape : Shape := .list { name := some "Entries" } folderReference false

/-- What folders are resolved to. -/
def folderShape : Shape :=
  .record { name := some "Folder" }
    [⟨{ name := "Title" }, .scalar { name := some "Title" } "string"⟩,
      ⟨{ name := "Entries" }, entriesShape⟩] true false

theorem resolve_folder : Shape.resolve folderTable none (.text "Folder") = .ok folderShape := by
  unfold Shape.resolve
  rw [← nestedResolver_eq_resolveAt (fun _ _ _ => .error ⟨"", []⟩) (by decide : _ < 3)]
  rfl

theorem descent_folderReference :
    Shape.Descent folderShape [folderShape, entriesShape] folderReference :=
  .down (by simp [folderShape, Shape.children])
    (.down (by simp [entriesShape, Shape.children]) (.here _))

/-- Three levels resolve folders, and the way down to the reference passes both containers. -/
theorem folder_terminates_with_distinct_names :
    nestedResolver folderTable none (fun _ _ _ => .error ⟨"", []⟩) 3 [] 0 (.text "Folder") =
        resolveAt folderTable none [] 0 (.text "Folder") ∧
      ∃ names : List String,
        Shape.containerNames [folderShape, entriesShape, folderReference] = names.map some ∧
          names.Nodup ∧ names.length ≤ 2 := by
  obtain ⟨hterminates, hnames⟩ :=
    resolve_terminates_with_distinct_names folderTable none (.text "Folder")
  refine ⟨hterminates _ 3 (by decide), ?_⟩
  obtain ⟨names, heq, hnodup, hlength, -⟩ :=
    hnames folderShape resolve_folder _ _ descent_folderReference
  exact ⟨names, heq, hnodup, hlength⟩

end ServiceShell
