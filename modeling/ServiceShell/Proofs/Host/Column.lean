import Mathlib.Data.List.Lex
import ServiceShell.Host.Column
import ServiceShell.Proofs.Result
import ServiceShell.Proofs.Shape.Tree
import ServiceShell.Proofs.Text.Variable

/-!
# Columns and the paths that they stand for

A path goes down a tree of records from member to member, by their indices.  A table has a column
for each path that goes through records as far as they are expanded, in the order in which the
members are declared, which is the lexicographic order of the paths.  A column has the type of the
member at the end of its path, and is named after all members on it; names that would be equal get
numbers.

Main results:

- Structure `Column.IsLeafPath`: the paths that are not gone further.
- Theorem `Column.mem_leaves_iff`: the leaf paths of a record.
- Theorem `Column.pairwise_leaves`: they are met in order, each once.
- Theorem `Column.forall₂_ofMembers`: each has a column, with the name and the type that it asks
  for.
- Theorem `Column.columns_of_leaf_paths`: the columns of a table.
-/

namespace ServiceShell

open Naming

namespace Shape

/-- The members on a path: it goes on from each to a member of the record that this one holds. -/
def membersOn? (s : Shape) : List Nat → Option (List (Member Shape))
  | [] => some []
  | index :: way => s.members[index]?.bind fun m => (m.shape.membersOn? way).map (m :: ·)

section

variable {record : Shape} {way : List Nat}

theorem membersOn?_cons_eq_some_iff {index : Nat} {m : Member Shape}
    {below : List (Member Shape)} :
    record.membersOn? (index :: way) = some (m :: below) ↔
      record.members[index]? = some m ∧ m.shape.membersOn? way = some below := by
  simp only [membersOn?, Option.bind_eq_some_iff, Option.map_eq_some_iff]
  constructor
  · rintro ⟨_, hm, _, hbelow, heq⟩
    cases heq
    exact ⟨hm, hbelow⟩
  · rintro ⟨hm, hbelow⟩
    exact ⟨m, hm, below, hbelow, rfl⟩

theorem membersOn?_eq_some_nil_iff : record.membersOn? way = some [] ↔ way = [] := by
  cases way with
  | nil => exact iff_of_true rfl rfl
  | cons index way => simp [membersOn?, Option.bind_eq_some_iff]

end

end Shape

namespace Column

/-! ## Leaf paths -/

/-- Whether a member that is reached by a path of some length is expanded, given its shape: it holds
a record that does not refer back to itself, and the path is shorter than the limit. -/
def IsExpanded (limit : Int) (length : Nat) (s : Shape) : Prop :=
  isExpandable s = true ∧ length < limit

instance (limit : Int) (length : Nat) (s : Shape) : Decidable (IsExpanded limit length s) :=
  inferInstanceAs (Decidable (_ ∧ _))

/-- Whether a path goes through members of records that are expanded, and ends at one that is
not. -/
structure IsLeafPath (limit : Int) (record : Shape) (path : List Nat)
    (members : List (Member Shape)) : Prop where
  /-- The members are those on the path. -/
  membersOn?_eq : record.membersOn? path = some members
  /-- There is one at least. -/
  ne_nil : members ≠ []
  /-- Only the last one is not expanded. -/
  isExpanded_iff : ∀ index (h : index < members.length),
    IsExpanded limit (index + 1) members[index].shape ↔ index + 1 < members.length

section LeafPath

variable {limit : Int} {record : Shape} {index : Nat} {way : List Nat} {m : Member Shape}
  {below : List (Member Shape)}

/-- With one member less on the way the limit is reached one level earlier. -/
theorem isExpanded_sub_one {length : Nat} {s : Shape} :
    IsExpanded (limit - 1) length s ↔ IsExpanded limit (length + 1) s := by
  unfold IsExpanded
  refine and_congr_right fun _ => ?_
  omega

/-- A path begins at a member of the record.  It ends there if the member is not expanded, and goes
on below it if it is. -/
theorem isLeafPath_cons_iff :
    IsLeafPath limit record (index :: way) (m :: below) ↔
      record.members[index]? = some m ∧
        ((¬ IsExpanded limit 1 m.shape ∧ way = [] ∧ below = []) ∨
          (IsExpanded limit 1 m.shape ∧ IsLeafPath (limit - 1) m.shape way below)) := by
  constructor
  · intro h
    obtain ⟨hm, hbelow⟩ := Shape.membersOn?_cons_eq_some_iff.mp h.membersOn?_eq
    have hfirst := h.isExpanded_iff 0 (by simp)
    refine ⟨hm, ?_⟩
    cases below with
    | nil => exact .inl ⟨by simpa using hfirst, Shape.membersOn?_eq_some_nil_iff.mp hbelow, rfl⟩
    | cons next below =>
        refine .inr ⟨hfirst.mpr (by simp), hbelow, List.cons_ne_nil _ _, fun i hi => ?_⟩
        have hnext := h.isExpanded_iff (i + 1) (by simpa using hi)
        rw [isExpanded_sub_one]
        simpa using hnext
  · rintro ⟨hm, ⟨hend, rfl, rfl⟩ | ⟨hexpanded, hbelow⟩⟩
    · refine ⟨Shape.membersOn?_cons_eq_some_iff.mpr ⟨hm, rfl⟩, List.cons_ne_nil _ _, fun i hi => ?_⟩
      obtain rfl : i = 0 := by simpa using hi
      exact iff_of_false hend (by simp)
    · refine ⟨Shape.membersOn?_cons_eq_some_iff.mpr ⟨hm, hbelow.membersOn?_eq⟩,
        List.cons_ne_nil _ _, fun i hi => ?_⟩
      cases i with
      | zero => exact iff_of_true hexpanded (by simpa using List.length_pos_iff.mpr hbelow.ne_nil)
      | succ i =>
          have hnext := hbelow.isExpanded_iff i (by simpa using hi)
          rw [isExpanded_sub_one] at hnext
          simpa using hnext

/-- A leaf path has a member at least. -/
theorem IsLeafPath.exists_eq_cons {path : List Nat} {members : List (Member Shape)}
    (h : IsLeafPath limit record path members) :
    ∃ index way m below, path = index :: way ∧ members = m :: below := by
  obtain ⟨m, below, rfl⟩ := List.exists_cons_of_ne_nil h.ne_nil
  cases path with
  | nil => cases h.membersOn?_eq
  | cons index way => exact ⟨index, way, m, below, rfl, rfl⟩

end LeafPath

/-! ## All leaf paths -/

mutual

/-- How leaf paths go on below a member with a shape, each with the members on it: they end at the
member unless it is expanded. -/
def leavesBelow (limit : Int) : Shape → List (List Nat × List (Member Shape))
  | .record _ members selfReferencing _ =>
    if !selfReferencing && limit > 1 then leaves (limit - 1) 0 members else [([], [])]
  | _ => [([], [])]

/-- The leaf paths through some members, the first of which has an index. -/
def leaves (limit : Int) (index : Nat) :
    List (Member Shape) → List (List Nat × List (Member Shape))
  | [] => []
  | ⟨info, shape⟩ :: rest =>
    (leavesBelow limit shape).map (fun leaf => (index :: leaf.1, ⟨info, shape⟩ :: leaf.2))
      ++ leaves limit (index + 1) rest

end

section Leaves

variable {limit : Int} {index : Nat} {members : List (Member Shape)}
  {leaf : List Nat × List (Member Shape)}

/-- Below a member that is expanded there are the leaf paths of its record. -/
theorem leavesBelow_eq (limit : Int) (s : Shape) :
    leavesBelow limit s =
      if IsExpanded limit 1 s then leaves (limit - 1) 0 s.members else [([], [])] := by
  cases s with
  | record info members selfReferencing exception =>
      simp [leavesBelow, IsExpanded, isExpandable, Shape.members]
  | _ => rfl

/-- A leaf path begins with the index of a member and goes on below it. -/
theorem mem_leaves_iff_exists :
    leaf ∈ leaves limit index members ↔
      ∃ i m below, members[i]? = some m ∧ below ∈ leavesBelow limit m.shape ∧
        leaf = ((index + i) :: below.1, m :: below.2) := by
  induction members generalizing index with
  | nil => simp [leaves]
  | cons m rest ih =>
      rw [leaves, List.mem_append, List.mem_map, ih]
      constructor
      · rintro (⟨below, hbelow, rfl⟩ | ⟨i, other, below, hother, hbelow, rfl⟩)
        · exact ⟨0, m, below, rfl, hbelow, rfl⟩
        · exact ⟨i + 1, other, below, hother, hbelow, by rw [Nat.add_assoc, Nat.add_comm 1]⟩
      · rintro ⟨i, other, below, hother, hbelow, rfl⟩
        cases i with
        | zero =>
            cases hother
            exact .inl ⟨below, hbelow, rfl⟩
        | succ i =>
            exact .inr ⟨i, other, below, hother, hbelow, by rw [Nat.add_assoc, Nat.add_comm 1]⟩

/-- The leaf paths of a record. -/
theorem mem_leaves_iff {record : Shape} {path : List Nat} :
    (path, members) ∈ leaves limit 0 record.members ↔ IsLeafPath limit record path members := by
  induction path generalizing record limit members with
  | nil =>
      refine iff_of_false (fun h => ?_) fun h => ?_
      · obtain ⟨i, m, below, -, -, heq⟩ := mem_leaves_iff_exists.mp h
        cases heq
      · obtain ⟨_, _, _, _, hpath, -⟩ := h.exists_eq_cons
        cases hpath
  | cons index way ih =>
      rw [mem_leaves_iff_exists]
      constructor
      · rintro ⟨i, m, ⟨way, below⟩, hm, hbelow, heq⟩
        rw [Nat.zero_add] at heq
        cases heq
        rw [leavesBelow_eq] at hbelow
        refine isLeafPath_cons_iff.mpr ⟨hm, ?_⟩
        split at hbelow <;> rename_i hexpanded
        · exact .inr ⟨hexpanded, ih.mp hbelow⟩
        · cases List.mem_singleton.mp hbelow
          exact .inl ⟨hexpanded, rfl, rfl⟩
      · intro h
        obtain ⟨_, _, m, below, heq, rfl⟩ := h.exists_eq_cons
        cases heq
        obtain ⟨hm, hbelow⟩ := isLeafPath_cons_iff.mp h
        refine ⟨index, m, (way, below), hm, ?_, by rw [Nat.zero_add]⟩
        rw [leavesBelow_eq]
        rcases hbelow with ⟨hend, rfl, rfl⟩ | ⟨hexpanded, hbelow⟩
        · rw [if_neg hend]
          exact List.mem_singleton_self _
        · rw [if_pos hexpanded]
          exact ih.mpr hbelow

/-- Leaf paths are met in order if those below each member are. -/
theorem pairwise_leaves_of_forall
    (h : ∀ m ∈ members, (leavesBelow limit m.shape).Pairwise fun a b => a.1 < b.1) :
    (leaves limit index members).Pairwise fun a b => a.1 < b.1 := by
  induction members generalizing index with
  | nil => exact .nil
  | cons m rest ih =>
      rw [List.forall_mem_cons] at h
      rw [leaves, List.pairwise_append, List.pairwise_map]
      refine ⟨h.1.imp fun hless => List.cons_lt_cons_iff.mpr (.inr ⟨rfl, hless⟩), ih h.2, ?_⟩
      intro a ha b hb
      obtain ⟨_, -, rfl⟩ := List.mem_map.mp ha
      obtain ⟨i, _, _, -, -, rfl⟩ := mem_leaves_iff_exists.mp hb
      exact List.cons_lt_cons_iff.mpr (.inl (by omega))

theorem pairwise_leavesBelow (limit : Int) (s : Shape) :
    (leavesBelow limit s).Pairwise fun a b => a.1 < b.1 := by
  induction s using Shape.induction_children generalizing limit with
  | step s ih =>
      rw [leavesBelow_eq]
      split
      · exact pairwise_leaves_of_forall fun m hm => ih _ (Shape.mem_children_of_mem_members hm) _
      · exact List.pairwise_singleton _ _

/-- The leaf paths of a record are met in lexicographic order, each once. -/
theorem pairwise_leaves (limit : Int) (index : Nat) (members : List (Member Shape)) :
    (leaves limit index members).Pairwise fun a b => a.1 < b.1 :=
  pairwise_leaves_of_forall fun _ _ => pairwise_leavesBelow _ _

end Leaves

/-! ## Names and types -/

/-- The word for a member in the names of columns: its hyphenated name, unless that is empty. -/
def wordFor (m : Member Shape) : String := if kebab m.name = "" then "column" else kebab m.name

/-- The name that a column asks for, given the members on its path. -/
def baseName (members : List (Member Shape)) : String := "-".intercalate (members.map wordFor)

/-- Whether a column is what is asked for by the members on a path, when the name of what is around
them is given. -/
structure IsAskedFor (outer : Option String) (members : List (Member Shape)) (c : Column) : Prop
    where
  /-- Its name has the words for all members. -/
  name_eq : c.name = "-".intercalate (outer.toList ++ members.map wordFor)
  /-- Its type is that of the last member. -/
  type_eq : ∃ m, members.getLast? = some m ∧ c.type = m.shape.type (.ofField m.name)

section Columns

variable {limit : Int} {index : Nat} {outer : Option String} {info : MemberInfo} {s : Shape}
  {members : List (Member Shape)}

theorem nameIn_eq (outer : Option String) (m : Member Shape) :
    nameIn outer m.name = "-".intercalate (outer.toList ++ [wordFor m]) := by
  cases outer <;> rfl

/-- The name of a member is that of what is around the members below it. -/
theorem IsAskedFor.cons {m : Member Shape} {c : Column}
    (h : IsAskedFor (some (nameIn outer m.name)) members c) :
    IsAskedFor outer (m :: members) c := by
  obtain ⟨hname, last, hlast, htype⟩ := h
  refine ⟨?_, last, by rw [List.getLast?_cons, hlast]; rfl, htype⟩
  rw [hname]
  cases outer <;> rfl

/-- A member that is expanded has the columns of its record, and any other has one. -/
theorem ofMember_eq (outer : Option String) (limit : Int) (info : MemberInfo) (s : Shape) :
    ofMember outer limit info s =
      if IsExpanded limit 1 s then ofMembers (some (nameIn outer info.name)) (limit - 1) s.members
      else [⟨nameIn outer info.name, s.type (.ofField info.name)⟩] := by
  cases s with
  | record i members selfReferencing exception =>
      simp [ofMember, IsExpanded, isExpandable, Shape.members]
  | _ => rfl

/-- If each leaf path below each of some members has a column, then each through them has. -/
theorem forall₂_ofMembers_of_forall
    (h : ∀ m ∈ members, List.Forall₂ (fun leaf c => IsAskedFor outer (m :: leaf.2) c)
      (leavesBelow limit m.shape) (ofMember outer limit m.info m.shape)) :
    List.Forall₂ (fun leaf c => IsAskedFor outer leaf.2 c) (leaves limit index members)
      (ofMembers outer limit members) := by
  induction members generalizing index with
  | nil => exact .nil
  | cons m rest ih =>
      rw [List.forall_mem_cons] at h
      have hfirst : List.Forall₂ (fun leaf c => IsAskedFor outer leaf.2 c)
          ((leavesBelow limit m.shape).map fun leaf => (index :: leaf.1, m :: leaf.2))
          (ofMember outer limit m.info m.shape) :=
        List.forall₂_map_left_iff.mpr h.1
      exact List.rel_append hfirst (ih h.2)

/-- Each leaf path below a member has a column. -/
theorem forall₂_ofMember (outer : Option String) (limit : Int) (info : MemberInfo) (s : Shape) :
    List.Forall₂ (fun leaf c => IsAskedFor outer (⟨info, s⟩ :: leaf.2) c) (leavesBelow limit s)
      (ofMember outer limit info s) := by
  induction s using Shape.induction_children generalizing outer limit info with
  | step s ih =>
      rw [leavesBelow_eq, ofMember_eq]
      split
      · have hmembers : List.Forall₂
            (fun leaf c => IsAskedFor (some (nameIn outer info.name)) leaf.2 c)
            (leaves (limit - 1) 0 s.members)
            (ofMembers (some (nameIn outer info.name)) (limit - 1) s.members) :=
          forall₂_ofMembers_of_forall fun m hm =>
            ih _ (Shape.mem_children_of_mem_members hm) _ _ m.info
        exact hmembers.imp fun leaf c hc => hc.cons (m := ⟨info, s⟩)
      · exact .cons ⟨nameIn_eq outer ⟨info, s⟩, ⟨info, s⟩, rfl, rfl⟩ .nil

/-- Each leaf path through some members has a column, with the name and the type that it asks
for. -/
theorem forall₂_ofMembers (outer : Option String) (limit : Int) (index : Nat)
    (members : List (Member Shape)) :
    List.Forall₂ (fun leaf c => IsAskedFor outer leaf.2 c) (leaves limit index members)
      (ofMembers outer limit members) :=
  forall₂_ofMembers_of_forall fun m _ => forall₂_ofMember outer limit m.info m.shape

/-! ## Distinct names -/

/-- The name that is found for a column is a candidate that is free. -/
theorem firstFree_id_spec (taken : List String) (name : String) :
    ∃ n, firstFree id taken name "-" = candidate name "-" n ∧ candidate name "-" n ∉ taken := by
  have hinjective : Function.Injective fun n => id (candidate name "-" n) :=
    candidate_injective name "-"
  obtain ⟨n, -, hname, hfree, -⟩ := firstFree_spec taken hinjective
  exact ⟨n, hname, hfree⟩

/-- Names that are made different keep the columns and their types, and get numbers at most. -/
theorem forall₂_distinctFrom {α : Type} {asks : α → Column → Prop} {items : List α}
    {columns : List Column} (h : List.Forall₂ asks items columns) (taken : List String) :
    List.Forall₂ (fun item d => ∃ c n, asks item c ∧ d.type = c.type ∧
      d.name = candidate c.name "-" n) items (distinctFrom taken columns) := by
  induction h generalizing taken with
  | nil => exact .nil
  | @cons item c _ _ hasks _ ih =>
      obtain ⟨n, hname, -⟩ := firstFree_id_spec taken c.name
      exact .cons ⟨c, n, hasks, rfl, hname⟩ (ih _)

/-- No two columns share a name, and no name was taken before. -/
theorem nodup_distinctFrom (taken : List String) (columns : List Column) :
    ((distinctFrom taken columns).map Column.name).Nodup ∧
      ∀ c ∈ distinctFrom taken columns, c.name ∉ taken := by
  induction columns generalizing taken with
  | nil => simp [distinctFrom]
  | cons c rest ih =>
      obtain ⟨n, hname, hfree⟩ := firstFree_id_spec taken c.name
      obtain ⟨hnodup, hfresh⟩ := ih (firstFree id taken c.name "-" :: taken)
      simp only [distinctFrom, List.map_cons, List.nodup_cons, List.forall_mem_cons]
      refine ⟨⟨?_, hnodup⟩, hname ▸ hfree, ?_⟩
      · intro hmem
        obtain ⟨d, hd, heq⟩ := List.mem_map.mp hmem
        exact hfresh d hd (heq ▸ List.mem_cons_self)
      · intro d hd htaken
        exact hfresh d hd (List.mem_cons_of_mem _ htaken)

end Columns

/-! ## Words -/

theorem wordFor_mem_hyphenatedNames (m : Member Shape) :
    (wordFor m).toList ∈ hyphenatedNames := by
  unfold wordFor
  split <;> rename_i hempty
  · have hword : ∀ c ∈ "column".toList, IsSmall c := by simp [IsSmall]
    exact mem_hyphenatedNames_of_mem_smallWords ⟨by decide, hword⟩
  · exact kebab_mem_hyphenatedNames hempty

/-- The name that a column asks for is hyphenated. -/
theorem baseName_mem_hyphenatedNames {members : List (Member Shape)} (hne : members ≠ []) :
    (baseName members).toList ∈ hyphenatedNames := by
  refine intercalate_mem_hyphenatedNames (by simpa using hne) ?_
  rw [List.forall_mem_map]
  exact fun m _ => wordFor_mem_hyphenatedNames m

/-- A number is a word. -/
theorem toString_mem_smallWords (n : Nat) : (toString n).toList ∈ smallWords :=
  ⟨by simp, fun _ hc => .inr (isDigit_of_mem_toString hc)⟩

/-! ## Tables -/

/-- Whether a column stands for the members on a path. -/
structure StandsFor (members : List (Member Shape)) (c : Column) : Prop where
  /-- Its type is that of the last member. -/
  type_eq : ∃ m, members.getLast? = some m ∧ c.type = m.shape.type (.ofField m.name)
  /-- Its name has the words for all members, and a number at most. -/
  name_eq : c.name = baseName members ∨
    ∃ number, 2 ≤ number ∧ c.name = baseName members ++ "-" ++ toString number

/-- A name with a number at most is hyphenated. -/
theorem StandsFor.name_mem_hyphenatedNames {members : List (Member Shape)} {c : Column}
    (h : StandsFor members c) (hne : members ≠ []) : c.name.toList ∈ hyphenatedNames := by
  have hbase := baseName_mem_hyphenatedNames hne
  rcases h.name_eq with hname | ⟨number, -, hname⟩
  · rw [hname]
    exact hbase
  · have htext : c.name.toList = (baseName members).toList ++ '-' :: (toString number).toList := by
      rw [hname]
      simp
    rw [htext]
    exact append_mem_hyphenatedNames hbase
      (mem_hyphenatedNames_of_mem_smallWords (toString_mem_smallWords number))

/-- A column whose name was made different still stands for what it was asked for. -/
theorem standsFor_of_isAskedFor {members : List (Member Shape)} {c d : Column} {n : Nat}
    (hc : IsAskedFor none members c) (htype : d.type = c.type)
    (hname : d.name = candidate c.name "-" n) : StandsFor members d := by
  obtain ⟨hbase, m, hlast, hm⟩ := hc
  refine ⟨⟨m, hlast, htype.trans hm⟩, ?_⟩
  rw [hname, hbase]
  cases n with
  | zero => exact .inl rfl
  | succ n => exact .inr ⟨n + 2, Nat.le_add_left 2 n, rfl⟩

/-- The columns of a record, or of a list of records, down to a limit.  There is one for each leaf
path, in lexicographic order; a leaf path goes through members that hold records which do not refer
back to themselves, as long as it is shorter than the limit, and ends at the first other one.  The
column has the type of the last member and a name that is made of the words for all members, with a
number behind it at most.  No two columns share a name, and all names are hyphenated. -/
theorem columns_of_leaf_paths (shape : Shape) (limit : Int) :
    ∃ paths : List (List Nat × List (Member Shape)),
      (∀ path members, (path, members) ∈ paths ↔
        IsLeafPath limit (recordOf shape) path members) ∧
      paths.Pairwise (fun a b => a.1 < b.1) ∧
      List.Forall₂ (fun path c => StandsFor path.2 c) paths (ofShape shape limit) ∧
      ((ofShape shape limit).map Column.name).Nodup ∧
      ∀ c ∈ ofShape shape limit, c.name.toList ∈ hyphenatedNames := by
  have hcolumns : List.Forall₂ (fun path c => StandsFor path.2 c)
      (leaves limit 0 (recordOf shape).members) (ofShape shape limit) := by
    refine (forall₂_distinctFrom (forall₂_ofMembers none limit 0 _) []).imp ?_
    rintro path d ⟨c, n, hc, htype, hname⟩
    exact standsFor_of_isAskedFor hc htype hname
  refine ⟨_, fun path members => mem_leaves_iff, pairwise_leaves limit 0 _, hcolumns,
    (nodup_distinctFrom [] _).1, fun c hc => ?_⟩
  obtain ⟨⟨path, members⟩, hpath, hstands⟩ := exists_mem_of_forall₂ hcolumns hc
  exact hstands.name_mem_hyphenatedNames (mem_leaves_iff.mp hpath).ne_nil

end Column

end ServiceShell
