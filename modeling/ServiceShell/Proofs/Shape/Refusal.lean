import ServiceShell.Proofs.Shape.Resolution

/-!
# What resolution refuses

Whatever a table holds, resolution of a name returns a shape, but for one thing: a member that is
met may tell the place where it travels by something that is no text.  A definition that nothing
leads to, that is cut off by the limit, or that lies on the path already, is not looked at.

Main results:

- Definition `Expands`: the definitions that resolution of a name comes to expand.
- Theorem `resolveAt_returns_iff`: a name is resolved exactly when the members of all records that
  are expanded tell their places by texts, if at all.
- Theorem `resolve_returns_iff`: the same for a name that is resolved at the root, and what a
  refusal says.
-/

namespace ServiceShell

open Record

variable {table : Fields} {limit : Option Int}

/-! ## Places of members -/

/-- Whether a field is missing, or holds a text or the bytes of one. -/
def isTextField : Document → Bool
  | .null => true
  | .text _ => true
  | .scalar (.bytes b) => (Text.decode ⟨b.toArray⟩).isOk
  | _ => false

/-- Whether the reference of a member tells the place where the member travels, and its name there,
by texts, if it tells them. -/
def tellsPlace (reference : Document) : Bool :=
  isTextField (reference.getD "location") && isTextField (reference.getD "locationName")

/-- A refusal that is about the place of a member, and says which of the two fields is wrong. -/
structure IsPlaceFailure (failure : Failure) : Prop where
  /-- It is about a member. -/
  record_eq : failure.record = "ShapeMember"
  /-- Something is wrong. -/
  issues_ne : failure.issues ≠ []
  /-- It names the two fields only. -/
  path_eq : ∀ issue ∈ failure.issues,
    issue.path = ["location"] ∨ issue.path = ["location_name"]

/-- A field is an issue exactly when it holds something other than a text. -/
theorem optionalText_issues_eq_nil_iff (d : Document) (key path : String) :
    (optionalText d key path).2 = [] ↔ isTextField (d.getD key) = true := by
  unfold optionalText
  split
  · rename_i hfield
    simp [hfield, isTextField]
  · rename_i hfield
    simp [hfield, isTextField]
  · rename_i bytes hfield
    rw [hfield, isTextField]
    cases Text.decode ⟨bytes.toArray⟩ <;> simp [Except.isOk, Except.toBool]
  · rename_i htext hnull hbytes
    have hother : isTextField (d.getD key) = false := by
      unfold isTextField
      split <;> simp_all
    simp [hother]

/-- An issue with a field names the field. -/
theorem path_of_mem_optionalText_issues {d : Document} {key path : String} {issue : Issue}
    (h : issue ∈ (optionalText d key path).2) : issue.path = [path] := by
  unfold optionalText at h
  split at h
  · cases h
  · cases h
  · split at h
    · cases h
    · rw [List.mem_singleton.mp h]
  · rw [List.mem_singleton.mp h]

/-- A member has attributes exactly when its place is told by texts. -/
theorem MemberInfo.ofReference_returns_iff (name : Scalar) (isRequired : Bool)
    (reference : Document) :
    (∃ info, MemberInfo.ofReference name isRequired reference = .ok info) ↔
      tellsPlace reference = true := by
  rw [tellsPlace, Bool.and_eq_true, ← optionalText_issues_eq_nil_iff _ _ "location",
    ← optionalText_issues_eq_nil_iff _ _ "location_name", ← List.append_eq_nil_iff]
  simp only [MemberInfo.ofReference]
  split <;> rename_i hissues
  · simp [hissues]
  · simp [hissues]

/-- What keeps a member from having attributes is its place. -/
theorem MemberInfo.isPlaceFailure_of_ofReference {name : Scalar} {isRequired : Bool}
    {reference : Document} {failure : Failure}
    (h : MemberInfo.ofReference name isRequired reference = .error failure) :
    IsPlaceFailure failure := by
  simp only [MemberInfo.ofReference] at h
  split at h <;> rename_i hissues
  · cases h
  · cases h
    refine ⟨rfl, List.cons_ne_nil _ _, ?_⟩
    intro issue hissue
    rw [← hissues] at hissue
    rcases List.mem_append.mp hissue with hfirst | hsecond
    · exact .inl (path_of_mem_optionalText_issues hfirst)
    · exact .inr (path_of_mem_optionalText_issues hsecond)

/-! ## References -/

/-- The name that a reference holds, if it is a reference at all. -/
def target? : Document → Option Document
  | .object fields => some ((Fields.get? "shape" fields).getD .null)
  | .text name => some (.text name)
  | _ => none

/-- The references in a definition that are followed when it is expanded. -/
def Container.references (definition : Document) : Container → List Document
  | .record => ((memberFields? definition).getD []).map (·.2)
  | .list => [definition.getD "member"]
  | .map => [definition.getD "key", definition.getD "value"]

section Follow

variable {resolve : Document → Except Failure Resolution} {reference : Document}

/-- A reference is followed exactly when the name that it holds is resolved. -/
theorem followReference_returns_iff :
    (∃ r, followReference resolve reference = .ok r) ↔
      ∀ name, target? reference = some name → ∃ r, resolve name = .ok r := by
  unfold followReference target?
  split <;> simp

/-- What keeps a reference from being followed keeps the name that it holds from being resolved. -/
theorem followReference_eq_error {failure : Failure}
    (h : followReference resolve reference = .error failure) :
    ∃ name, target? reference = some name ∧ resolve name = .error failure := by
  unfold followReference at h
  split at h
  · exact ⟨_, rfl, h⟩
  · exact ⟨_, rfl, h⟩
  · cases h

/-- The members of a record are resolved exactly when each reference is followed and each place is
told by texts. -/
theorem resolveMembers_returns_iff (resolve : Document → Except Failure Resolution)
    (definition : Document) (fields : Fields) :
    (∃ r, resolveMembers resolve definition fields = .ok r) ↔
      ∀ field ∈ fields, (∃ r, followReference resolve field.2 = .ok r) ∧
        tellsPlace field.2 = true := by
  induction fields with
  | nil => simp [resolveMembers]
  | cons field rest ih =>
      obtain ⟨name, reference⟩ := field
      rw [List.forall_mem_cons, ← ih,
        ← MemberInfo.ofReference_returns_iff name (isRequired definition name)]
      simp only [resolveMembers, bind_eq_ok_iff, pure_eq_ok_iff]
      constructor
      · rintro ⟨_, child, hchild, info, hinfo, members, hmembers, -⟩
        exact ⟨⟨⟨child, hchild⟩, info, hinfo⟩, members, hmembers⟩
      · rintro ⟨⟨⟨child, hchild⟩, info, hinfo⟩, members, hmembers⟩
        exact ⟨_, child, hchild, info, hinfo, members, hmembers, rfl⟩

/-- What keeps members from being resolved is a reference or a place. -/
theorem resolveMembers_eq_error {definition : Document} {fields : Fields} {failure : Failure}
    (h : resolveMembers resolve definition fields = .error failure) :
    IsPlaceFailure failure ∨
      ∃ reference ∈ fields.map (·.2), followReference resolve reference = .error failure := by
  induction fields with
  | nil => cases h
  | cons field rest ih =>
      obtain ⟨name, reference⟩ := field
      rw [List.map_cons, List.exists_mem_cons_iff]
      simp only [resolveMembers, bind_eq_error_iff] at h
      rcases h with hchild | ⟨child, -, hinfo | ⟨info, -, hrest | ⟨members, -, hpure⟩⟩⟩
      · exact .inr (.inl hchild)
      · exact .inl (MemberInfo.isPlaceFailure_of_ofReference hinfo)
      · exact (ih hrest).imp_right .inr
      · cases hpure

/-- A container is expanded exactly when its references are followed and, in a record, the places of
its members are told by texts. -/
theorem expand_returns_iff {name : String} {definition : Document} {container : Container} :
    (∃ r, expand resolve name definition container = .ok r) ↔
      (∀ reference ∈ container.references definition,
        ∃ r, followReference resolve reference = .ok r) ∧
      (container = .record →
        ∀ reference ∈ container.references definition, tellsPlace reference = true) := by
  cases container with
  | record =>
      simp only [expand, Container.references]
      cases memberFields? definition with
      | none => simp [pure_eq_ok_iff]
      | some fields =>
          have hmembers := resolveMembers_returns_iff resolve definition fields
          simp only [bind_eq_ok_iff, pure_eq_ok_iff, Option.getD_some, List.forall_mem_map]
          constructor
          · rintro ⟨_, members, hresolved, -⟩
            have hall := hmembers.mp ⟨members, hresolved⟩
            exact ⟨fun field hfield => (hall field hfield).1,
              fun _ field hfield => (hall field hfield).2⟩
          · rintro ⟨hfollowed, hplaced⟩
            obtain ⟨members, hresolved⟩ := hmembers.mpr fun field hfield =>
              ⟨hfollowed field hfield, hplaced trivial field hfield⟩
            exact ⟨_, members, hresolved, rfl⟩
  | list =>
      simp only [expand, Container.references, bind_eq_ok_iff, pure_eq_ok_iff,
        List.forall_mem_singleton, reduceCtorEq, false_implies, and_true]
      constructor
      · rintro ⟨_, element, helement, -⟩
        exact ⟨element, helement⟩
      · rintro ⟨element, helement⟩
        exact ⟨_, element, helement, rfl⟩
  | map =>
      simp only [expand, Container.references, bind_eq_ok_iff, pure_eq_ok_iff,
        List.forall_mem_cons, List.not_mem_nil, reduceCtorEq, false_implies, implies_true, and_true]
      constructor
      · rintro ⟨_, key, hkey, value, hvalue, -⟩
        exact ⟨⟨key, hkey⟩, value, hvalue⟩
      · rintro ⟨⟨key, hkey⟩, value, hvalue⟩
        exact ⟨_, key, hkey, value, hvalue, rfl⟩

/-- What keeps a container from being expanded is a reference in it or the place of a member. -/
theorem expand_eq_error {name : String} {definition : Document} {container : Container}
    {failure : Failure} (h : expand resolve name definition container = .error failure) :
    IsPlaceFailure failure ∨ ∃ reference ∈ container.references definition,
      followReference resolve reference = .error failure := by
  cases container with
  | record =>
      simp only [expand] at h
      split at h
      · rename_i fields hfields
        simp only [Container.references, hfields, Option.getD_some]
        rw [bind_eq_error_iff] at h
        rcases h with hmembers | ⟨members, -, hpure⟩
        · exact resolveMembers_eq_error hmembers
        · cases hpure
      · cases h
  | list =>
      simp only [expand, bind_eq_error_iff] at h
      rcases h with helement | ⟨element, -, hpure⟩
      · exact .inr ⟨_, List.mem_singleton_self _, helement⟩
      · cases hpure
  | map =>
      simp only [expand, bind_eq_error_iff] at h
      rcases h with hkey | ⟨key, -, hvalue | ⟨value, -, hpure⟩⟩
      · exact .inr ⟨_, List.mem_cons_self, hkey⟩
      · exact .inr ⟨_, List.mem_cons_of_mem _ (List.mem_singleton_self _), hvalue⟩
      · cases hpure

end Follow

/-! ## Definitions that are met -/

/-- The definition that a name is expanded to at a depth, below the shapes on a path; none if the
name comes to a leaf. -/
def expanded? (table : Fields) (limit : Option Int) (path : List String) (depth : Nat) :
    Document → Option (String × Document × Container)
  | .text name =>
    if name = "" ∨ name ∈ path then none
    else
      match Fields.get? name table with
      | some (.object fields) =>
        (classify name (.object fields) depth limit).getRight?.map fun container =>
          (name, .object fields, container)
      | _ => none
  | _ => none

/-- `Expands table limit path depth name definition container` says that the resolution of `name` at
a depth, below the shapes on `path`, comes to expand a definition as a container: the one that the
name stands for, or one that a reference in it leads to. -/
inductive Expands (table : Fields) (limit : Option Int) :
    List String → Nat → Document → Document → Container → Prop
  /-- The definition that the name stands for. -/
  | here {path : List String} {depth : Nat} {name definition : Document} {own : String}
      {container : Container}
      (h : expanded? table limit path depth name = some (own, definition, container)) :
      Expands table limit path depth name definition container
  /-- A definition that a reference leads to. -/
  | further {path : List String} {depth : Nat} {name definition : Document} {own : String}
      {container : Container} {reference child other : Document} {kind : Container}
      (h : expanded? table limit path depth name = some (own, definition, container))
      (hreference : reference ∈ container.references definition)
      (htarget : target? reference = some child)
      (hchild : Expands table limit (own :: path) (depth + 1) child other kind) :
      Expands table limit path depth name other kind

section Levels

variable {path : List String} {depth : Nat} {name : Document}

/-- A name is expanded to the definition of a container that it stands for, unless it is on the path
already. -/
theorem expanded?_eq_some_iff {own : String} {definition : Document} {container : Container} :
    expanded? table limit path depth name = some (own, definition, container) ↔
      name = .text own ∧ own ≠ "" ∧ own ∉ path ∧ ∃ fields, definition = .object fields ∧
        Fields.get? own table = some definition ∧
          classify own definition depth limit = .inr container := by
  unfold expanded?
  split
  · rename_i text
    split <;> rename_i hfresh
    · constructor
      · intro h
        cases h
      · rintro ⟨hname, hempty, hpath, -⟩
        cases hname
        exact absurd hfresh (not_or.mpr ⟨hempty, hpath⟩)
    · obtain ⟨hempty, hpath⟩ := not_or.mp hfresh
      split
      · rename_i fields hget
        simp only [Option.map_eq_some_iff, Sum.getRight?_eq_some_iff, Prod.mk.injEq]
        constructor
        · rintro ⟨kind, hkind, rfl, rfl, rfl⟩
          exact ⟨rfl, hempty, hpath, fields, rfl, hget, hkind⟩
        · rintro ⟨hname, -, -, others, rfl, hothers, hkind⟩
          cases hname
          rw [hget, Option.some.injEq] at hothers
          exact ⟨container, hothers ▸ hkind, rfl, hothers, rfl⟩
      · rename_i hget
        constructor
        · intro h
          cases h
        · rintro ⟨hname, -, -, fields, rfl, hfields, -⟩
          cases hname
          exact absurd hfields (hget fields)
  · rename_i hname
    constructor
    · intro h
      cases h
    · rintro ⟨rfl, -⟩
      exact absurd rfl (hname own)

/-- A name that is not expanded is resolved, to a leaf. -/
theorem exists_resolveAt_of_expanded?_eq_none
    (h : expanded? table limit path depth name = none) :
    ∃ r, resolveAt table limit path depth name = .ok r := by
  rw [resolveAt_eq_step]
  unfold resolveStep
  split
  · rename_i own
    split
    · exact ⟨_, rfl⟩
    · rename_i hempty
      split
      · exact ⟨_, rfl⟩
      · rename_i hpath
        split
        · rename_i fields hget
          split
          · exact ⟨_, rfl⟩
          · rename_i container hkind
            have hexpanded := expanded?_eq_some_iff.mpr
              ⟨rfl, hempty, hpath, fields, rfl, hget, hkind⟩
            rw [h] at hexpanded
            cases hexpanded
        · exact ⟨_, rfl⟩
  · exact ⟨_, rfl⟩

/-- A name that is expanded is resolved by the expansion of its definition; it was not on the path,
and it is the name of a container of the table. -/
theorem resolveAt_of_expanded? {own : String} {definition : Document} {container : Container}
    (h : expanded? table limit path depth name = some (own, definition, container)) :
    resolveAt table limit path depth name =
        expand (resolveAt table limit (own :: path) (depth + 1)) own definition container ∧
      own ∉ path ∧ .text own ∈ Fields.keys (containerEntries table) := by
  obtain ⟨rfl, hempty, hpath, fields, rfl, hget, hkind⟩ := expanded?_eq_some_iff.mp h
  have hdefines := (definesContainer_of_classify hkind).1
  refine ⟨?_, hpath, mem_keys_containerEntries hget hdefines⟩
  rw [resolveAt_eq_step]
  simp only [resolveStep, if_neg hempty, if_neg hpath, hget, hkind]

end Levels

/-! ## Main results -/

/-- A name is resolved exactly when the members of all records that are expanded on the way tell
their places by texts, if they tell them. -/
theorem resolveAt_returns_iff {path : List String} {depth : Nat} {name : Document} :
    (∃ r, resolveAt table limit path depth name = .ok r) ↔
      ∀ definition, Expands table limit path depth name definition .record →
        ∀ reference ∈ Container.record.references definition, tellsPlace reference = true := by
  -- Each level puts a container of the table on the path.
  induction hcount : unvisited (containerEntries table) path using Nat.strongRecOn
    generalizing path depth name with
  | _ count ih =>
      cases hexpanded : expanded? table limit path depth name with
      | none =>
          refine iff_of_true (exists_resolveAt_of_expanded?_eq_none hexpanded) ?_
          intro definition hexpands
          cases hexpands with
          | here h => simp [hexpanded] at h
          | further h => simp [hexpanded] at h
      | some found =>
          obtain ⟨own, definition, container⟩ := found
          obtain ⟨hstep, hpath, hkey⟩ := resolveAt_of_expanded? hexpanded
          have hless := unvisited_containers_lt hpath hkey
          have hbelow : ∀ child, (∃ r, resolveAt table limit (own :: path) (depth + 1) child =
              .ok r) ↔ ∀ other, Expands table limit (own :: path) (depth + 1) child other .record →
                ∀ reference ∈ Container.record.references other, tellsPlace reference = true :=
            fun child => ih _ (hcount ▸ hless) rfl
          rw [hstep, expand_returns_iff]
          simp only [followReference_returns_iff, hbelow]
          constructor
          · rintro ⟨hreferences, hown⟩ other hexpands
            cases hexpands with
            | here h =>
                rw [hexpanded] at h
                cases h
                exact hown rfl
            | further h hreference htarget hchild =>
                rw [hexpanded] at h
                cases h
                exact hreferences _ hreference _ htarget other hchild
          · intro hall
            refine ⟨?_, ?_⟩
            · intro reference hreference child htarget other hchild
              exact hall other (.further hexpanded hreference htarget hchild)
            · rintro rfl
              exact hall definition (.here hexpanded)

/-- What keeps a name from being resolved is the place of a member. -/
theorem isPlaceFailure_of_resolveAt {path : List String} {depth : Nat} {name : Document}
    {failure : Failure} (h : resolveAt table limit path depth name = .error failure) :
    IsPlaceFailure failure := by
  induction hcount : unvisited (containerEntries table) path using Nat.strongRecOn
    generalizing path depth name with
  | _ count ih =>
      cases hexpanded : expanded? table limit path depth name with
      | none =>
          obtain ⟨r, hr⟩ := exists_resolveAt_of_expanded?_eq_none hexpanded
          rw [hr] at h
          cases h
      | some found =>
          obtain ⟨own, definition, container⟩ := found
          obtain ⟨hstep, hpath, hkey⟩ := resolveAt_of_expanded? hexpanded
          have hless := unvisited_containers_lt hpath hkey
          rw [hstep] at h
          rcases expand_eq_error h with hplace | ⟨reference, -, hreference⟩
          · exact hplace
          · obtain ⟨child, -, hchild⟩ := followReference_eq_error hreference
            exact ih _ (hcount ▸ hless) hchild rfl

/-- Resolution of a name returns a shape exactly when each member of each record that is expanded on
the way tells its place by texts, if it tells it: nothing else in the table, in the name or in the
limit keeps a shape from being returned.  What is refused is the place of a member, and the refusal
names the field. -/
theorem resolve_returns_iff (table : Fields) (limit : Option Int) (name : Document) :
    ((∃ shape, Shape.resolve table limit name = .ok shape) ↔
      ∀ definition, Expands table limit [] 0 name definition .record →
        ∀ reference ∈ Container.record.references definition, tellsPlace reference = true) ∧
    ∀ failure, Shape.resolve table limit name = .error failure → IsPlaceFailure failure := by
  rw [← resolveAt_returns_iff]
  unfold Shape.resolve
  constructor
  · cases resolveAt table limit [] 0 name <;> simp [Except.map]
  · intro failure h
    cases hr : resolveAt table limit [] 0 name with
    | ok r =>
        rw [hr] at h
        cases h
    | error refused =>
        rw [hr] at h
        cases h
        exact isPlaceFailure_of_resolveAt hr

/-- A reference whose place is told by a number. -/
def numberedReference : Document := .ofPairs [("shape", .text "Title"), ("location", .int 5)]

/-- A table with a record whose one member travels at a place that is a number. -/
def numberedTable : Fields :=
  [(.text "Book", .ofPairs [("type", .text "structure"),
      ("members", .ofPairs [("Title", numberedReference)])]),
    (.text "Title", .ofPairs [("type", .text "string")])]

/-- No shape is returned for the record, while its member is resolved on its own. -/
theorem numberedTable_refused :
    (¬ ∃ shape, Shape.resolve numberedTable none (.text "Book") = .ok shape) ∧
      ∃ shape, Shape.resolve numberedTable none (.text "Title") = .ok shape := by
  rw [(resolve_returns_iff _ _ _).1, (resolve_returns_iff _ _ _).1]
  constructor
  · intro hall
    have hplace := hall _ (.here rfl) numberedReference (List.mem_singleton_self _)
    exact absurd hplace (by decide)
  · intro definition hexpands
    cases hexpands with
    | here h => cases h
    | further h => cases h

end ServiceShell
