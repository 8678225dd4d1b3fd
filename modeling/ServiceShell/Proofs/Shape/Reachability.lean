import Mathlib.Logic.Relation
import ServiceShell.Proofs.Shape.Refusal
import ServiceShell.Proofs.Shape.Termination

/-!
# What a resolution depends on

A name leads to the names that its definition refers to, and so on.  The resolution of a name looks
at the definitions of the names that it leads to, and asks for these whether they are on the path.
So two tables that agree on these names, and two paths that do, give the same tree and the same
references back: the cut between what a name leads to and all the rest is clean.

Main results:

- Definition `Reaches`: the names that a name leads to.
- Theorem `expand_congr`: an expansion depends on the names in its references only.
- Theorem `resolveAt_congr`: tables and paths that agree on what a name leads to.
- Theorem `resolve_depends_on_reachable`: the same for the order of a table, for a name that nothing
  leads to, and for the members of a record beside each other.
-/

namespace ServiceShell

open Record

/-! ## Names that a name leads to -/

/-- The names that a definition refers to: by its members, its elements, or its keys and values. -/
def referredNames (definition : Document) : List String :=
  match (definition.getD "type").text?.bind Container.ofType? with
  | some container =>
    (container.references definition).filterMap fun r => (target? r).bind Document.text?
  | none => []

/-- The names that the definition of a name refers to. -/
def referredBy (table : Fields) (name : String) : List String :=
  match Fields.get? name table with
  | some definition => referredNames definition
  | none => []

/-- Whether a name leads to another: to itself, and to what the definition of a name that it leads
to refers to.  What is no text leads to nothing. -/
def Reaches (table : Fields) (name : Document) (other : String) : Prop :=
  ∃ own, name = .text own ∧
    Relation.ReflTransGen (fun n child => child ∈ referredBy table n) own other

theorem Reaches.self (table : Fields) (name : String) : Reaches table (.text name) name :=
  ⟨name, rfl, .refl⟩

/-- A name leads to what its definition refers to, and to all that this leads to. -/
theorem Reaches.of_child {table : Fields} {name other : String} {definition child : Document}
    {container : Container} {reference : Document}
    (hget : Fields.get? name table = some definition)
    (hcontainer : (definition.getD "type").text?.bind Container.ofType? = some container)
    (hreference : reference ∈ container.references definition)
    (htarget : target? reference = some child) (h : Reaches table child other) :
    Reaches table (.text name) other := by
  obtain ⟨own, rfl, hother⟩ := h
  have hreferred : own ∈ referredBy table name := by
    simp only [referredBy, hget, referredNames, hcontainer, List.mem_filterMap]
    exact ⟨reference, hreference, by rw [htarget]; rfl⟩
  exact ⟨name, rfl, .head hreferred hother⟩

/-- Names whose definitions refer to each other only lead nowhere else. -/
theorem Reaches.mem_of_closed {table : Fields} {names : List String} {name other : String}
    (hclosed : ∀ n ∈ names, ∀ child ∈ referredBy table n, child ∈ names) (hname : name ∈ names)
    (h : Reaches table (.text name) other) : other ∈ names := by
  obtain ⟨own, heq, hother⟩ := h
  cases heq
  induction hother with
  | refl => exact hname
  | tail _ hchild ih => exact hclosed _ ih _ hchild

/-! ## One level -/

section Congruence

variable {resolve other : Document → Except Failure Resolution}

theorem followReference_congr {reference : Document}
    (h : ∀ child, target? reference = some child → resolve child = other child) :
    followReference resolve reference = followReference other reference := by
  unfold followReference
  split
  · exact h _ rfl
  · exact h _ rfl
  · rfl

theorem resolveMembers_congr {definition : Document} {fields : Fields}
    (h : ∀ reference ∈ fields.map (·.2), ∀ child, target? reference = some child →
      resolve child = other child) :
    resolveMembers resolve definition fields = resolveMembers other definition fields := by
  induction fields with
  | nil => rfl
  | cons field rest ih =>
      obtain ⟨key, reference⟩ := field
      rw [List.map_cons, List.forall_mem_cons] at h
      rw [resolveMembers, resolveMembers, followReference_congr h.1, ih h.2]

/-- An expansion depends on the names in its references only. -/
theorem expand_congr {name : String} {definition : Document} {container : Container}
    (h : ∀ reference ∈ container.references definition, ∀ child, target? reference = some child →
      resolve child = other child) :
    expand resolve name definition container = expand other name definition container := by
  cases container with
  | record =>
      simp only [expand]
      cases hfields : memberFields? definition with
      | none => rfl
      | some fields =>
          simp only [Container.references, hfields, Option.getD_some] at h
          simp only [resolveMembers_congr h]
  | list =>
      simp only [Container.references, List.forall_mem_singleton] at h
      simp only [expand, followReference_congr h]
  | map =>
      simp only [Container.references, List.forall_mem_cons] at h
      simp only [expand, followReference_congr h.1, followReference_congr h.2.1]

/-- The members of a record have the shapes that their references are resolved to, each by
itself. -/
theorem forall₂_of_resolveMembers {definition : Document} {fields : Fields}
    {members : List (Member Shape)} {refersTo : List String}
    (h : resolveMembers resolve definition fields = .ok (members, refersTo)) :
    List.Forall₂ (fun field member => ∃ child, followReference resolve field.2 = .ok child ∧
      member.shape = child.shape) fields members := by
  induction fields generalizing members refersTo with
  | nil =>
      simp only [resolveMembers, Except.ok.injEq, Prod.mk.injEq] at h
      rw [← h.1]
      exact .nil
  | cons field rest ih =>
      obtain ⟨key, reference⟩ := field
      simp only [resolveMembers, bind_eq_ok_iff, pure_eq_ok_iff, Prod.exists, Prod.mk.injEq] at h
      obtain ⟨child, hchild, info, -, restMembers, restRefersTo, hrest, rfl, -⟩ := h
      exact .cons ⟨child, hchild, rfl⟩ (ih hrest)

end Congruence

/-! ## Resolution -/

section Resolution

variable {table second : Fields} {limit : Option Int} {path otherPath : List String} {depth : Nat}

/-- Tables and paths that agree on the names that a name leads to resolve it in the same way. -/
theorem resolveAt_congr {name : Document}
    (htable : ∀ n, Reaches table name n → Fields.get? n second = Fields.get? n table)
    (hpath : ∀ n, Reaches table name n → (n ∈ otherPath ↔ n ∈ path)) :
    resolveAt second limit otherPath depth name = resolveAt table limit path depth name := by
  -- Each level puts a container of the table on both paths.
  induction hcount : unvisited (containerEntries table) path using Nat.strongRecOn
    generalizing path otherPath depth name with
  | _ count ih =>
      rw [resolveAt_eq_step, resolveAt_eq_step]
      unfold resolveStep
      split
      · rename_i own
        have hget := htable own (.self table own)
        have hmem := hpath own (.self table own)
        split
        · rfl
        · by_cases hown : own ∈ path
          · rw [if_pos hown, if_pos (hmem.mpr hown)]
          · rw [if_neg hown, if_neg (mt hmem.mp hown), hget]
            split
            · rename_i fields hfields
              split
              · rfl
              · rename_i container hclassify
                have hdefines := (definesContainer_of_classify hclassify).1
                have hless := unvisited_containers_lt hown
                  (mem_keys_containerEntries hfields hdefines)
                apply expand_congr
                intro reference hreference child htarget
                have hchild : ∀ n, Reaches table child n → Reaches table (.text own) n :=
                  fun n hn => .of_child hfields (ofType?_of_classify hclassify) hreference htarget
                    hn
                refine ih _ (hcount ▸ hless) ?_ ?_ rfl
                · intro n hn
                  exact htable n (hchild n hn)
                · intro n hn
                  rw [List.mem_cons, List.mem_cons, hpath n (hchild n hn)]
            · rfl
      · rfl

/-- In a record that is resolved, the shape of each member is what its own reference is resolved to
below the record. -/
theorem forall₂_members_of_resolveAt {own : String} {info : ShapeInfo}
    {members : List (Member Shape)} {refers isException : Bool} {refersTo : List String}
    (h : resolveAt table limit path depth (.text own) =
      .ok ⟨.record info members refers isException, refersTo⟩) :
    ∃ definition fields, Fields.get? own table = some definition ∧
      memberFields? definition = some fields ∧
        List.Forall₂ (fun field member => ∃ child,
          followReference (resolveAt table limit (own :: path) (depth + 1)) field.2 = .ok child ∧
            member.shape = child.shape) fields members := by
  rw [resolveAt_eq_step] at h
  simp only [resolveStep] at h
  split at h
  · cases h
  · split at h
    · cases h
    · split at h
      · rename_i fields hget
        split at h
        · rename_i shape hclassify
          cases h
          cases (isLeaf_of_classify hclassify).isPlain.isContainer_eq
        · rename_i container hclassify
          refine ⟨.object fields, ?_⟩
          cases container with
          | record =>
              simp only [expand] at h
              split at h
              · rename_i members hmembers
                simp only [bind_eq_ok_iff, pure_eq_ok_iff, Prod.exists] at h
                obtain ⟨resolved, back, hresolved, heq⟩ := h
                cases heq
                exact ⟨members, hget, hmembers, forall₂_of_resolveMembers hresolved⟩
              · rw [pure_eq_ok_iff] at h
                cases h
          | list =>
              simp only [expand, bind_eq_ok_iff, pure_eq_ok_iff] at h
              obtain ⟨element, -, heq⟩ := h
              cases heq
          | map =>
              simp only [expand, bind_eq_ok_iff, pure_eq_ok_iff] at h
              obtain ⟨key, -, value, -, heq⟩ := h
              cases heq
      · cases h

end Resolution

/-! ## Main result -/

/-- The resolution of a name depends on the definitions of the names that it leads to, and on which
of these are on the path, and on nothing else: two tables and two paths that agree there give the
same tree and the same references back.  So neither the order of the definitions nor one that
nothing leads to has an effect, and the members of a record are resolved as if each stood alone, all
of them below the same path. -/
theorem resolve_depends_on_reachable (table : Fields) (limit : Option Int) (name : Document) :
    (∀ second path otherPath depth,
      (∀ n, Reaches table name n → Fields.get? n second = Fields.get? n table) →
      (∀ n, Reaches table name n → (n ∈ otherPath ↔ n ∈ path)) →
        resolveAt second limit otherPath depth name = resolveAt table limit path depth name) ∧
    (∀ second, table.Perm second → (Fields.keys table).Nodup →
      Shape.resolve second limit name = Shape.resolve table limit name) ∧
    (∀ unrelated definition, ¬ Reaches table name unrelated →
      Shape.resolve (Fields.put (.text unrelated) definition table) limit name =
        Shape.resolve table limit name) ∧
    ∀ path depth own info members refers isException refersTo, name = .text own →
      resolveAt table limit path depth name =
          .ok ⟨.record info members refers isException, refersTo⟩ →
        ∃ definition fields, Fields.get? own table = some definition ∧
          memberFields? definition = some fields ∧
            List.Forall₂ (fun field member => ∃ child,
              followReference (resolveAt table limit (own :: path) (depth + 1)) field.2 =
                .ok child ∧ member.shape = child.shape) fields members := by
  refine ⟨?_, ?_, ?_, ?_⟩
  · intro second path otherPath depth htable hpath
    exact resolveAt_congr htable hpath
  · intro second hperm hnodup
    rw [Shape.resolve, Shape.resolve,
      resolveAt_congr (fun n _ => Fields.get?_perm hperm hnodup n) fun n _ => Iff.rfl]
  · intro unrelated definition hunrelated
    have htable : ∀ n, Reaches table name n →
        Fields.get? n (Fields.put (.text unrelated) definition table) = Fields.get? n table := by
      intro n hn
      rw [Fields.get?_put, if_neg]
      rintro rfl
      exact hunrelated hn
    rw [Shape.resolve, Shape.resolve, resolveAt_congr htable fun n _ => Iff.rfl]
  · rintro path depth own info members refers isException refersTo rfl h
    exact forall₂_members_of_resolveAt h

/-- Folders lead to their titles and entries only. -/
theorem mem_of_reaches_folder {n : String} (h : Reaches folderTable (.text "Folder") n) :
    n ∈ ["Folder", "Title", "Entries"] :=
  h.mem_of_closed (by decide) (by decide)

/-- The definitions of folders in another order, with a book among them. -/
def libraryTable : Fields :=
  (.text "Book", .ofPairs [("type", .text "list"), ("member", .text "Folder")]) ::
    folderTable.reverse

theorem resolveAt_folder :
    resolveAt folderTable none [] 0 (.text "Folder") = .ok ⟨folderShape, []⟩ := by
  rw [← nestedResolver_eq_resolveAt (fun _ _ _ => .error ⟨"", []⟩) (by decide : _ < 3)]
  rfl

/-- Folders are resolved in the same way in the other table, also below a book, and in each table
that only differs by the order or by a definition of books.  Their entries are what entries are
below folders, whatever stands before them. -/
theorem folder_depends_on_reachable :
    resolveAt libraryTable none ["Book"] 0 (.text "Folder") =
        resolveAt folderTable none [] 0 (.text "Folder") ∧
      Shape.resolve folderTable.reverse none (.text "Folder") = .ok folderShape ∧
      Shape.resolve (Fields.put (.text "Book") .null folderTable) none (.text "Folder") =
        .ok folderShape ∧
      ∃ child, followReference (resolveAt folderTable none ["Folder"] 1)
        (.ofPairs [("shape", .text "Entries")]) = .ok child ∧ entriesShape = child.shape := by
  obtain ⟨hagree, hperm, hput, halone⟩ :=
    resolve_depends_on_reachable folderTable none (.text "Folder")
  rw [← resolve_folder]
  refine ⟨?_, ?_, ?_, ?_⟩
  · apply hagree
    · intro n hn
      have hmem := mem_of_reaches_folder hn
      simp only [List.mem_cons, List.not_mem_nil, or_false] at hmem
      rcases hmem with rfl | rfl | rfl <;> rfl
    · intro n hn
      have hmem := mem_of_reaches_folder hn
      simp only [List.mem_cons, List.not_mem_nil, or_false] at hmem ⊢
      rcases hmem with rfl | rfl | rfl <;> decide
  · exact hperm _ (List.reverse_perm _).symm (by decide)
  · apply hput
    intro hbook
    exact absurd (mem_of_reaches_folder hbook) (by decide)
  · obtain ⟨definition, fields, hget, hfields, hmembers⟩ :=
      halone _ _ _ _ _ _ _ _ rfl resolveAt_folder
    cases hget
    cases hfields
    cases hmembers with
    | cons _ hrest =>
        cases hrest with
        | cons hentries _ => exact hentries

end ServiceShell
