import ServiceShell.Proofs.Shape.BackReference
import ServiceShell.Proofs.Shape.Cut

/-!
# Resolution with a limit

A limit on the depth of resolution is looked at last, when a definition is found that would be
expanded.  So resolution with a limit returns what resolution without one returns, cut at the depth
of the limit.

The induction is on the levels that are left above the cut: one level of resolution with a limit
either agrees with the level without, or cuts off, or expands the same definition.

Main results:

- Theorem `resolveStep_limited`: one level of resolution with a limit.
- Theorem `resolveAt_cut`: resolution with a limit returns the cut of what resolution returns.
- Theorem `resolveAt_limit_eq`: a limit with room for all containers has no effect.
- Theorem `resolve_limited_eq_cut`: all this at the root.
-/

namespace ServiceShell

open Record

/-! ## Shapes that would have been expanded -/

theorem Fallback.isMalformedRecord_shape (f : Fallback) (info : ShapeInfo) :
    (f.shape info).isMalformedRecord =
      info.name.any fun name => f.reason = (malformedMembers name).reason := by
  cases f <;> rfl

/-- Only a record whose members make no sense would have been expanded. -/
theorem Fallback.isExpandable_shape {f : Fallback} {info : ShapeInfo}
    (hf : ∀ name, f ≠ malformedMembers name) : (f.shape info).isExpandable = false := by
  have hcontainer : (f.shape info).isContainer = false := by cases f <;> rfl
  rw [Shape.isExpandable, hcontainer, Bool.false_or, isMalformedRecord_shape, Option.any_eq_false]
  intro name _
  rw [decide_eq_false_iff_not]
  intro hreason
  obtain ⟨n, hn⟩ := eq_malformedMembers_of_reason_eq hreason
  exact hf n hn

/-- What a definition comes to at once would not have been expanded, whatever its depth. -/
theorem isExpandable_of_classify {name : String} {definition : Document} {depth : Nat}
    {shape : Shape} (h : classify name definition depth none = .inl shape) :
    shape.isExpandable = false := by
  simp only [classify] at h
  split at h
  · cases h
    exact Fallback.isExpandable_shape (by simp)
  · cases h
    exact Fallback.isExpandable_shape (by simp)
  · split at h
    · cases h
      exact Fallback.isExpandable_shape (by simp)
    · split at h
      · split at h <;> cases h <;> rfl
      · split at h <;> cases h
        exact Fallback.isExpandable_shape (by simp)

/-- A limit only cuts off what would be expanded without it. -/
theorem classify_limited (name : String) (definition : Document) (depth : Nat) (limit : Int) :
    classify name definition depth (some limit) =
      match classify name definition depth none with
      | .inl shape => .inl shape
      | .inr container =>
        if limit ≤ depth then
          .inl ((Fallback.tooDeep limit name).shape (.ofDefinition name definition))
        else .inr container := by
  simp only [classify]
  split
  · rfl
  · rfl
  · by_cases hunion : (definition.getD "union").isTruthy = true
    · simp only [if_pos hunion]
    · simp only [if_neg hunion]
      split
      · split <;> rfl
      · split <;> rfl

/-- What is expanded keeps the attributes of its definition, and would have been cut off. -/
theorem isExpandable_of_expand {resolve : Document → Except Failure Resolution} {name : String}
    {definition : Document} {container : Container} {r : Resolution}
    (h : expand resolve name definition container = .ok r) :
    r.shape.isExpandable = true ∧ r.shape.info = .ofDefinition name definition := by
  cases container with
  | record =>
      simp only [expand] at h
      split at h
      · simp only [bind_eq_ok_iff, pure_eq_ok_iff] at h
        obtain ⟨members, -, rfl⟩ := h
        exact ⟨rfl, rfl⟩
      · rw [pure_eq_ok_iff] at h
        subst h
        refine ⟨?_, rfl⟩
        rw [Resolution.leaf, Shape.isExpandable, Fallback.isMalformedRecord_shape]
        simp [ShapeInfo.ofDefinition]
  | list =>
      simp only [expand, bind_eq_ok_iff, pure_eq_ok_iff] at h
      obtain ⟨element, -, rfl⟩ := h
      exact ⟨rfl, rfl⟩
  | map =>
      simp only [expand, bind_eq_ok_iff, pure_eq_ok_iff] at h
      obtain ⟨key, -, value, -, rfl⟩ := h
      exact ⟨rfl, rfl⟩

/-! ## Expansion with other shapes below -/

section Expansion

variable {resolve other : Document → Except Failure Resolution} {f : Shape → Shape}

/-- When names are resolved to other shapes, so are references. -/
theorem followReference_map
    (hresolve : ∀ name r, resolve name = .ok r → ∃ r', other name = .ok r' ∧ r'.shape = f r.shape)
    (hleaf : ∀ s : Shape, s.isExpandable = false → f s = s) {reference : Document}
    {r : Resolution} (h : followReference resolve reference = .ok r) :
    ∃ r', followReference other reference = .ok r' ∧ r'.shape = f r.shape := by
  unfold followReference at h ⊢
  split at h
  · exact hresolve _ r h
  · exact hresolve _ r h
  · cases h
    have hmalformed : (Fallback.malformedReference.shape {}).isExpandable = false :=
      Fallback.isExpandable_shape (by simp)
    exact ⟨_, rfl, (hleaf _ hmalformed).symm⟩

/-- When names are resolved to other shapes, so are members. -/
theorem resolveMembers_map
    (hresolve : ∀ name r, resolve name = .ok r → ∃ r', other name = .ok r' ∧ r'.shape = f r.shape)
    (hleaf : ∀ s : Shape, s.isExpandable = false → f s = s) {definition : Document}
    {fields : Fields} {members : List (Member Shape)} {refersTo : List String}
    (h : resolveMembers resolve definition fields = .ok (members, refersTo)) :
    ∃ refersTo', resolveMembers other definition fields =
      .ok (members.map fun m => ⟨m.info, f m.shape⟩, refersTo') := by
  induction fields generalizing members refersTo with
  | nil =>
      simp only [resolveMembers, Except.ok.injEq, Prod.mk.injEq] at h
      obtain ⟨rfl, rfl⟩ := h
      exact ⟨[], rfl⟩
  | cons field rest ih =>
      obtain ⟨key, reference⟩ := field
      simp only [resolveMembers, bind_eq_ok_iff, pure_eq_ok_iff, Prod.exists, Prod.mk.injEq] at h
      obtain ⟨child, hchild, info, hinfo, restMembers, restRefersTo, hrest, rfl, rfl⟩ := h
      obtain ⟨child', hchild', hshape⟩ := followReference_map hresolve hleaf hchild
      obtain ⟨restRefersTo', hrest'⟩ := ih hrest
      refine ⟨child'.refersTo ++ restRefersTo', ?_⟩
      simp only [resolveMembers, bind_eq_ok_iff, pure_eq_ok_iff]
      exact ⟨child', hchild', info, hinfo, _, hrest', by rw [hshape, List.map_cons]⟩

/-- When names are resolved to other shapes, a container is expanded to itself with the other shapes
below it. -/
theorem expand_map
    (hresolve : ∀ name r, resolve name = .ok r → ∃ r', other name = .ok r' ∧ r'.shape = f r.shape)
    (hleaf : ∀ s : Shape, s.isExpandable = false → f s = s) {name : String}
    {definition : Document} {container : Container} {r : Resolution}
    (h : expand resolve name definition container = .ok r) :
    ∃ r', expand other name definition container = .ok r' ∧
      r'.shape = r.shape.mapChildren f r'.shape.selfReferencing := by
  cases container with
  | record =>
      simp only [expand] at h ⊢
      split at h
      · simp only [bind_eq_ok_iff, pure_eq_ok_iff, Prod.exists] at h
        obtain ⟨members, refersTo, hmembers, rfl⟩ := h
        obtain ⟨refersTo', hmembers'⟩ := resolveMembers_map hresolve hleaf hmembers
        rw [hmembers']
        exact ⟨_, rfl, rfl⟩
      · rw [pure_eq_ok_iff] at h
        subst h
        exact ⟨_, rfl, rfl⟩
  | list =>
      simp only [expand, bind_eq_ok_iff, pure_eq_ok_iff] at h ⊢
      obtain ⟨element, helement, rfl⟩ := h
      obtain ⟨element', helement', hshape⟩ := followReference_map hresolve hleaf helement
      refine ⟨_, ⟨element', helement', rfl⟩, ?_⟩
      rw [hshape]
      rfl
  | map =>
      simp only [expand, bind_eq_ok_iff, pure_eq_ok_iff] at h ⊢
      obtain ⟨key, hkey, value, hvalue, rfl⟩ := h
      obtain ⟨key', hkey', hkeyShape⟩ := followReference_map hresolve hleaf hkey
      obtain ⟨value', hvalue', hvalueShape⟩ := followReference_map hresolve hleaf hvalue
      refine ⟨_, ⟨key', hkey', value', hvalue', rfl⟩, ?_⟩
      rw [hkeyShape, hvalueShape]
      rfl

end Expansion

/-! ## Resolution with a limit -/

section Resolution

variable {table : Fields} {limit : Option Int} {path : List String} {depth : Nat}
  {name : Document} {r : Resolution}

/-- Containers of resolved trees have names. -/
theorem exists_name_of_descent (h : resolveAt table limit path depth name = .ok r)
    {above : List Shape} {node : Shape} (hdescent : Shape.Descent r.shape above node)
    (hnode : node.isContainer = true) : ∃ own, node.info.name = some own := by
  obtain ⟨names, hnames, -⟩ := descendsFreshly_of_resolveAt h above node hdescent
  have hmem : node.info.name ∈ Shape.containerNames (above ++ [node]) := by
    refine List.mem_map.mpr ⟨node, List.mem_filter.mpr ⟨?_, hnode⟩, rfl⟩
    exact List.mem_append_right _ (List.mem_singleton_self node)
  rw [hnames] at hmem
  obtain ⟨own, -, hown⟩ := List.mem_map.mp hmem
  exact ⟨own, hown.symm⟩

/-- The mark of a container is the one that its leaves ask for. -/
theorem selfReferencing_eq_isReferredTo (h : resolveAt table limit path depth name = .ok r)
    (hcontainer : r.shape.isContainer = true) :
    r.shape.selfReferencing = Shape.isReferredTo r.shape.info r.shape.children := by
  obtain ⟨own, hown⟩ := exists_name_of_descent h (.here _) hcontainer
  have hmark := (accounted_of_resolveAt h).selfReferencing_iff [] r.shape own (.here _)
    (Shape.isContainerNamed_iff.mpr ⟨hcontainer, hown⟩)
  rw [Bool.eq_iff_iff, hmark, Shape.isReferredTo, hown, Option.any_some, List.contains_iff_mem,
    ← Shape.backReferences_of_isContainer hcontainer, Shape.mem_backReferences_iff]

/-- One level of resolution with a limit, beside the same level without: what is not expanded
without a limit is the same with it, and what is expanded is cut off or expanded. -/
theorem resolveStep_limited {below : Resolver}
    (h : resolveStep table none below path depth name = .ok r) (d : Int) :
    (r.shape.isExpandable = false ∧
        ∀ other, resolveStep table (some d) other path depth name = .ok r) ∨
      ∃ own definition container,
        expand (below (own :: path) (depth + 1)) own definition container = .ok r ∧
          ∀ other, resolveStep table (some d) other path depth name =
            if d ≤ depth then
              .ok (.leaf ((Fallback.tooDeep d own).shape (.ofDefinition own definition)))
            else expand (other (own :: path) (depth + 1)) own definition container := by
  have hleaf : ∀ (f : Fallback) info, (∀ n, f ≠ .malformedMembers n) →
      (f.shape info).isExpandable = false := fun _ _ => Fallback.isExpandable_shape
  unfold resolveStep at h ⊢
  split at h
  · rename_i own
    split at h <;> rename_i hempty
    · cases h
      exact .inl ⟨hleaf .missingReference {} (by simp), fun _ => if_pos hempty⟩
    · simp only [if_neg hempty]
      split at h <;> rename_i hpath
      · cases h
        exact .inl ⟨hleaf (.cycle own) _ (by simp), fun _ => if_pos hpath⟩
      · simp only [if_neg hpath]
        split at h
        · rename_i fields hget
          simp only [classify_limited]
          cases hclassify : classify own (.object fields) depth none with
          | inl shape =>
              rw [hclassify] at h
              cases h
              exact .inl ⟨isExpandable_of_classify hclassify, fun _ => rfl⟩
          | inr container =>
              rw [hclassify] at h
              refine .inr ⟨own, .object fields, container, h, ?_⟩
              intro other
              by_cases hdepth : d ≤ depth
              · simp only [if_pos hdepth]
              · simp only [if_neg hdepth]
        · cases h
          exact .inl ⟨hleaf (.undefined own) _ (by simp), fun _ => rfl⟩
  · cases h
    exact .inl ⟨hleaf .missingReference {} (by simp), fun _ => rfl⟩

/-- What is resolved without a limit is resolved with one, to a cut of the same tree. -/
theorem resolveAt_cut {d layers : Nat} (hdepth : depth + layers = d)
    (h : resolveAt table none path depth name = .ok r) :
    ∃ r', resolveAt table (some d) path depth name = .ok r' ∧
      r'.shape = r.shape.cut d layers := by
  induction layers generalizing path depth name r with
  | zero =>
      rw [resolveAt_eq_step] at h ⊢
      rcases resolveStep_limited h d with ⟨hleaf, hstep⟩ | ⟨own, definition, container, hr, hstep⟩
      · exact ⟨r, hstep _, (Shape.cut_of_not_isExpandable hleaf).symm⟩
      · obtain ⟨hexpandable, hinfo⟩ := isExpandable_of_expand hr
        refine ⟨.leaf ((Fallback.tooDeep d own).shape (.ofDefinition own definition)), ?_, ?_⟩
        · rw [hstep, if_pos (by omega)]
        · rw [Shape.cut_zero_of_isExpandable hexpandable, hinfo]
          rfl
  | succ layers ih =>
      have hresolved := h
      rw [resolveAt_eq_step] at h
      rcases resolveStep_limited h d with ⟨hleaf, hstep⟩ | ⟨own, definition, container, hr, hstep⟩
      · refine ⟨r, ?_, (Shape.cut_of_not_isExpandable hleaf).symm⟩
        rw [resolveAt_eq_step]
        exact hstep _
      · obtain ⟨r', hr', hshape⟩ := expand_map (f := Shape.cut d layers)
          (fun child c hc => ih (by omega) hc)
          (fun s hs => Shape.cut_of_not_isExpandable hs) hr
        have hlimited : resolveAt table (some d) path depth name = .ok r' := by
          rw [resolveAt_eq_step, hstep, if_neg (by omega)]
          exact hr'
        refine ⟨r', hlimited, ?_⟩
        rw [hshape, Shape.cut]
        cases hcontainer : r.shape.isContainer with
        | true =>
            have hmark := selfReferencing_eq_isReferredTo hlimited
              (by rw [hshape, Shape.isContainer_mapChildren, hcontainer])
            rw [hmark, hshape, Shape.info_mapChildren, Shape.children_mapChildren]
        | false => rw [Shape.mapChildren_of_not_isContainer _ _ hcontainer,
            Shape.mapChildren_of_not_isContainer _ _ hcontainer]

/-- A limit that leaves room for all containers off the path has no effect. -/
theorem resolveAt_limit_eq {d : Nat}
    (hroom : depth + unvisited (containerEntries table) path ≤ d) :
    resolveAt table (some d) path depth name = resolveAt table none path depth name := by
  induction hcount : unvisited (containerEntries table) path using Nat.strongRecOn
    generalizing path depth name with
  | _ count ih =>
      rw [resolveAt_eq_step, resolveAt_eq_step]
      unfold resolveStep
      split
      · rename_i own
        split
        · rfl
        · split <;> rename_i hpath
          · rfl
          · split
            · rename_i fields hget
              rw [classify_limited]
              cases hclassify : classify own (.object fields) depth none with
              | inl shape => rfl
              | inr container =>
                  have hdefines := (definesContainer_of_classify hclassify).1
                  have hless := unvisited_containers_lt hpath
                    (mem_keys_containerEntries hget hdefines)
                  have hbelow : resolveAt table (some d) (own :: path) (depth + 1) =
                      resolveAt table none (own :: path) (depth + 1) :=
                    funext fun child => ih _ (hcount ▸ hless) (by omega) rfl
                  simp only [if_neg (by omega : ¬ (d : Int) ≤ depth), hbelow]
            · rfl
      · rfl

end Resolution

/-! ## Resolution of a name -/

/-- The cut of a tree that was resolved without a limit. -/
theorem isCutAt_of_resolve {table : Fields} {name : Document} {whole : Shape}
    (h : Shape.resolve table none name = .ok whole) (limit : Nat) :
    Shape.IsCutAt limit whole (whole.cut limit limit) := by
  obtain ⟨r, hr, rfl⟩ := Shape.resolve_eq_ok h
  constructor
  case above =>
    intro way node hnode hway
    obtain ⟨layers, hlayers⟩ := Nat.exists_eq_add_of_lt hway
    have hleft : limit - way.length = layers + 1 := by omega
    refine ⟨node.cut limit (layers + 1), ?_, Shape.root_mapChildren _ _ _⟩
    rw [Shape.at?_cut (Nat.le_of_lt hway), hnode, hleft]
    rfl
  case cutOff =>
    intro way node hnode hway hexpandable
    obtain ⟨above, hdescent⟩ := Shape.exists_descent_of_at? hnode
    have hname : ∃ own, node.info.name = some own := by
      rcases hexpandable with hcontainer | hmalformed
      · exact exists_name_of_descent hr hdescent hcontainer
      · exact Shape.exists_name_of_isMalformedRecord hmalformed
    obtain ⟨own, hown⟩ := hname
    refine ⟨own, hown, ?_⟩
    have hcut : node.isExpandable = true := by
      rw [Shape.isExpandable, Bool.or_eq_true]
      exact hexpandable
    rw [Shape.at?_cut (Nat.le_of_eq hway), hnode, hway, Nat.sub_self, Option.map_some,
      Shape.cut_zero_of_isExpandable hcut, hown, Option.getD_some]
  case kept =>
    intro way node hnode hway hcontainer hmalformed
    have hleaf : node.isExpandable = false := by
      rw [Shape.isExpandable, hcontainer, hmalformed, Bool.or_false]
    rw [Shape.at?_cut (Nat.le_of_eq hway), hnode, Option.map_some,
      Shape.cut_of_not_isExpandable hleaf]
  case only =>
    intro way left hleft
    have hway : way.length ≤ limit := by
      by_contra hdeep
      rw [Shape.at?_cut_eq_none (Nat.lt_of_not_le hdeep)] at hleft
      cases hleft
    rw [Shape.at?_cut hway, Option.map_eq_some_iff] at hleft
    obtain ⟨node, hnode, rfl⟩ := hleft
    refine ⟨hway, node, hnode, ?_⟩
    intro hmark
    cases hcontainer : node.isContainer with
    | true =>
        -- A leaf that is left refers back to the node, and it stands in the whole tree too.
        obtain ⟨above, hdescent⟩ := Shape.exists_descent_of_at? hnode
        obtain ⟨own, hown, hback⟩ := Shape.exists_refersBack_of_cut hcontainer hmark
        exact ((accounted_of_resolveAt hr).selfReferencing_iff above node own hdescent
          (Shape.isContainerNamed_iff.mpr ⟨hcontainer, hown⟩)).mpr hback
    | false => exact Shape.selfReferencing_of_cut hcontainer hmark

/-- Whenever a name is resolved without a limit, it is resolved with any limit, to the tree that is
left when the first tree is cut at that depth: above the cut all is the same but for marks, at the
cut a container or a record whose members make no sense becomes a leaf that tells of the limit, and
a mark that is set was set before.  A limit of as many levels as the table has containers cuts
nothing. -/
theorem resolve_limited_eq_cut {table : Fields} {name : Document} {whole : Shape}
    (h : Shape.resolve table none name = .ok whole) (limit : Nat) :
    Shape.resolve table (some limit) name = .ok (whole.cut limit limit) ∧
      Shape.IsCutAt limit whole (whole.cut limit limit) ∧
      ((containerEntries table).length ≤ limit → whole.cut limit limit = whole) := by
  have hlimited : Shape.resolve table (some limit) name = .ok (whole.cut limit limit) := by
    obtain ⟨r, hr, rfl⟩ := Shape.resolve_eq_ok h
    obtain ⟨r', hr', hshape⟩ := resolveAt_cut (Nat.zero_add limit) hr
    rw [Shape.resolve, hr', ← hshape]
    rfl
  refine ⟨hlimited, isCutAt_of_resolve h limit, ?_⟩
  intro hroom
  have hcount : unvisited (containerEntries table) [] ≤ limit :=
    Nat.le_trans List.countP_le_length hroom
  rw [Shape.resolve, resolveAt_limit_eq (by omega), ← Shape.resolve, h] at hlimited
  exact (Except.ok.inj hlimited).symm

/-- What is left of folders when only one level is expanded: the list of entries is cut off, and
with it the reference back, so that the folder has lost its mark. -/
def shallowFolder : Shape :=
  .record { name := some "Folder" }
    [⟨{ name := "Title" }, .scalar { name := some "Title" } "string"⟩,
      ⟨{ name := "Entries" }, (Fallback.tooDeep 1 "Entries").shape { name := some "Entries" }⟩]
    false false

/-- One level of folders is cut at the entries, and two levels are all there is. -/
theorem folder_limited_eq_cut :
    Shape.resolve folderTable (some 1) (.text "Folder") = .ok shallowFolder ∧
      Shape.IsCutAt 1 folderShape shallowFolder ∧
      Shape.resolve folderTable (some 2) (.text "Folder") = .ok folderShape := by
  have hshallow : folderShape.cut 1 1 = shallowFolder := rfl
  obtain ⟨hresolve, hcut, -⟩ := resolve_limited_eq_cut resolve_folder 1
  obtain ⟨htwo, -, hwhole⟩ := resolve_limited_eq_cut resolve_folder 2
  rw [hwhole (by decide)] at htwo
  exact ⟨hshallow ▸ hresolve, hshallow ▸ hcut, htwo⟩

end ServiceShell
