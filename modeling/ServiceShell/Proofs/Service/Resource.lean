import Mathlib.Data.List.Induction
import Mathlib.Data.List.Nodup
import ServiceShell.Proofs.Service.Noun

/-!
# Grouping operations

The resources of some operations are made one operation at a time.  This module compares them with
the grouping that they stand for: one resource for each noun, in the order in which the nouns first
appear, with the names of all operations that have this noun, in their order.

Main results:

- Definitions `Resource.nouns` and `Resource.namesOn`: what a grouping is made of.
- Definition `Resource.merge`: the resources of two lists of operations, put together.
- Theorem `Resource.addOperation_grouped`: what one more operation does to a grouping.
- Theorem `Resource.ofOperations_eq_grouped`: the resources of some operations are a grouping.
- Theorem `Resource.ofOperations_is_stable_grouping`: what a grouping keeps, and how it grows.
- Theorem `Resource.nouns_behind_verbs_share_resource`: an operation on a noun in the plural and one
  on the noun itself belong to one resource.
-/

namespace ServiceShell.Resource

/-! ## First appearances -/

section

variable {α : Type} [DecidableEq α]

/-- An item that was there before is no first appearance. -/
theorem eraseDups_concat_of_mem {items : List α} {a : α} (h : a ∈ items) :
    (items ++ [a]).eraseDups = items.eraseDups := by
  have hnone : [a].removeAll items = [] := by simp [List.removeAll, h]
  rw [List.eraseDups_append, hnone, List.eraseDups_nil, List.append_nil]

/-- A new item appears last. -/
theorem eraseDups_concat_of_notMem {items : List α} {a : α} (h : a ∉ items) :
    (items ++ [a]).eraseDups = items.eraseDups ++ [a] := by
  have hone : [a].removeAll items = [a] := by simp [List.removeAll, h]
  rw [List.eraseDups_append, hone]
  rfl

/-- Every item appears first once. -/
theorem nodup_eraseDups (items : List α) : items.eraseDups.Nodup := by
  induction items using List.reverseRecOn with
  | nil => simp
  | append_singleton items a ih =>
      by_cases h : a ∈ items
      · rwa [eraseDups_concat_of_mem h]
      · rw [eraseDups_concat_of_notMem h]
        refine ih.append (List.nodup_singleton a) (List.disjoint_singleton.mpr ?_)
        rwa [List.mem_eraseDups]

/-- The first appearances of some items only, in a list or among those of all. -/
theorem eraseDups_filter (wanted : α → Bool) (items : List α) :
    (items.filter wanted).eraseDups = items.eraseDups.filter wanted := by
  induction items using List.reverseRecOn with
  | nil => simp
  | append_singleton items a ih =>
      rw [List.filter_append]
      by_cases ha : wanted a = true
      · rw [List.filter_cons_of_pos ha, List.filter_nil]
        by_cases h : a ∈ items
        · rw [eraseDups_concat_of_mem h, eraseDups_concat_of_mem (List.mem_filter.mpr ⟨h, ha⟩), ih]
        · rw [eraseDups_concat_of_notMem h,
            eraseDups_concat_of_notMem fun hmem => h (List.mem_of_mem_filter hmem), ih,
            List.filter_append, List.filter_cons_of_pos ha, List.filter_nil]
      · rw [List.filter_cons_of_neg ha, List.filter_nil, List.append_nil, ih]
        by_cases h : a ∈ items
        · rw [eraseDups_concat_of_mem h]
        · rw [eraseDups_concat_of_notMem h, List.filter_append, List.filter_cons_of_neg ha,
            List.filter_nil, List.append_nil]

end

/-! ## Groupings -/

/-- The nouns of some operations, in their order; some have none. -/
def nouns (operations : List Operation) : List String :=
  operations.filterMap fun o => noun? o.name

/-- The names of the operations that have a noun, in their order. -/
def namesOn (noun : String) (operations : List Operation) : List String :=
  (operations.filter fun o => noun? o.name = some noun).map Operation.modelName

/-- One resource for each noun, in the order in which the nouns first appear. -/
def grouped (operations : List Operation) : List Resource :=
  (nouns operations).eraseDups.map fun noun => ⟨noun, namesOn noun operations⟩

theorem nouns_append (first second : List Operation) :
    nouns (first ++ second) = nouns first ++ nouns second := List.filterMap_append

theorem namesOn_append (noun : String) (first second : List Operation) :
    namesOn noun (first ++ second) = namesOn noun first ++ namesOn noun second := by
  rw [namesOn, List.filter_append, List.map_append, namesOn, namesOn]

theorem mem_namesOn {noun name : String} {operations : List Operation} :
    name ∈ namesOn noun operations ↔
      ∃ o ∈ operations, noun? o.name = some noun ∧ o.modelName = name := by
  simp [namesOn, and_assoc]

/-- A noun that no operation has. -/
theorem namesOn_of_notMem {noun : String} {operations : List Operation}
    (h : noun ∉ nouns operations) : namesOn noun operations = [] := by
  apply List.eq_nil_iff_forall_not_mem.mpr
  intro name hname
  obtain ⟨o, ho, hnoun, -⟩ := mem_namesOn.mp hname
  exact h (List.mem_filterMap.mpr ⟨o, ho, hnoun⟩)

theorem map_name_grouped (operations : List Operation) :
    (grouped operations).map Resource.name = (nouns operations).eraseDups := by
  rw [grouped, List.map_map]
  exact List.map_id _

/-! ## One more operation -/

/-- An operation on a noun that has a resource is the last one of this resource. -/
theorem add_of_mem {noun : String} (operation : String) {resources : List Resource}
    (h : noun ∈ resources.map Resource.name) (hnodup : (resources.map Resource.name).Nodup) :
    add noun operation resources = resources.map fun r =>
      ⟨r.name, r.operations ++ if r.name = noun then [operation] else []⟩ := by
  induction resources with
  | nil => cases h
  | cons r rest ih =>
      obtain ⟨hfresh, hrest⟩ := List.nodup_cons.mp hnodup
      rw [add, List.map_cons]
      by_cases hr : r.name = noun
      · -- The names are distinct, so the resources behind it are other ones.
        have hother : ∀ other ∈ rest, other.name ≠ noun := by
          rintro other hmem rfl
          exact hfresh (hr ▸ List.mem_map_of_mem hmem)
        have hsame : (rest.map fun r =>
            (⟨r.name, r.operations ++ if r.name = noun then [operation] else []⟩ : Resource)) =
              rest := by
          refine (List.map_congr_left fun other hmem => ?_).trans (List.map_id rest)
          rw [if_neg (hother other hmem), List.append_nil]
          rfl
        rw [if_pos hr, if_pos hr, hsame]
      · have hmem : noun ∈ rest.map Resource.name :=
          (List.mem_cons.mp h).resolve_left fun heq => hr heq.symm
        rw [if_neg hr, if_neg hr, List.append_nil, ih hmem hrest]

/-- An operation on a new noun has a new resource, the last one. -/
theorem add_of_notMem {noun : String} (operation : String) {resources : List Resource}
    (h : noun ∉ resources.map Resource.name) :
    add noun operation resources = resources ++ [⟨noun, [operation]⟩] := by
  induction resources with
  | nil => rfl
  | cons r rest ih =>
      rw [List.map_cons, List.mem_cons, not_or] at h
      rw [add, if_neg (Ne.symm h.1), ih h.2, List.cons_append]

/-- One more operation adds itself to the grouping. -/
theorem addOperation_grouped (operations : List Operation) (o : Operation) :
    addOperation (grouped operations) o = grouped (operations ++ [o]) := by
  have hnames := map_name_grouped operations
  unfold addOperation
  cases hnoun : noun? o.name with
  | none =>
      have hnouns : nouns (operations ++ [o]) = nouns operations := by simp [nouns, hnoun]
      have hone : ∀ noun, namesOn noun [o] = [] := by simp [namesOn, hnoun]
      simp only [grouped, hnouns, namesOn_append, hone, List.append_nil]
  | some noun =>
      have hnouns : nouns (operations ++ [o]) = nouns operations ++ [noun] := by
        simp [nouns, hnoun]
      have hone : ∀ other, namesOn other [o] = if other = noun then [o.modelName] else [] := by
        intro other
        by_cases hother : other = noun
        · simp [namesOn, hnoun, hother]
        · simp [namesOn, hnoun, hother, Ne.symm hother]
      simp only [grouped, hnouns, namesOn_append, hone] at hnames ⊢
      by_cases hmem : noun ∈ nouns operations
      · have hnodup := nodup_eraseDups (nouns operations)
        rw [← hnames] at hnodup
        rw [add_of_mem _ (by rwa [hnames, List.mem_eraseDups]) hnodup,
          eraseDups_concat_of_mem hmem, List.map_map]
        rfl
      · rw [add_of_notMem _ (by rwa [hnames, List.mem_eraseDups]),
          eraseDups_concat_of_notMem hmem, List.map_append, List.map_singleton, if_pos rfl,
          namesOn_of_notMem hmem, List.nil_append]
        congr 1
        refine List.map_congr_left fun other hother => ?_
        have hne : other ≠ noun := by
          rintro rfl
          exact hmem (List.mem_eraseDups.mp hother)
        rw [if_neg hne, List.append_nil]

/-- The resources of some operations are a grouping. -/
theorem ofOperations_eq_grouped (operations : List Operation) :
    ofOperations operations = grouped operations := by
  induction operations using List.reverseRecOn with
  | nil => rfl
  | append_singleton operations o ih =>
      rw [← addOperation_grouped, ← ih, ofOperations, ofOperations, List.foldl_append,
        List.foldl_cons, List.foldl_nil]

/-! ## Two lists of operations -/

/-- The operations of the resource with a name, if there is one. -/
def operationsOf (name : String) (resources : List Resource) : List String :=
  ((resources.find? fun r => r.name = name).map Resource.operations).getD []

/-- Resources with those of further operations: operations on a noun that has a resource are added
to it, and new resources come last. -/
def merge (first second : List Resource) : List Resource :=
  (first.map fun r => ⟨r.name, r.operations ++ operationsOf r.name second⟩) ++
    second.filter fun r => r.name ∉ first.map Resource.name

/-- The operations of a resource in a grouping. -/
theorem operationsOf_grouped (noun : String) (operations : List Operation) :
    operationsOf noun (grouped operations) = namesOn noun operations := by
  unfold operationsOf
  cases hfind : (grouped operations).find? fun r => r.name = noun with
  | none =>
      have hnone : noun ∉ nouns operations := by
        intro hmem
        rw [← List.mem_eraseDups, ← map_name_grouped, List.mem_map] at hmem
        obtain ⟨r, hr, hname⟩ := hmem
        exact List.find?_eq_none.mp hfind r hr (decide_eq_true hname)
      rw [namesOn_of_notMem hnone]
      rfl
  | some r =>
      have hname : r.name = noun := by simpa using List.find?_some hfind
      obtain ⟨other, -, rfl⟩ := List.mem_map.mp (List.mem_of_find?_eq_some hfind)
      rw [← hname]
      rfl

/-- The grouping of two lists of operations is that of the first with that of the second. -/
theorem grouped_append (first second : List Operation) :
    grouped (first ++ second) = merge (grouped first) (grouped second) := by
  have hnew : (grouped second).filter (fun r => r.name ∉ (grouped first).map Resource.name) =
      ((nouns second).removeAll (nouns first)).eraseDups.map fun noun =>
        ⟨noun, namesOn noun second⟩ := by
    rw [List.removeAll, eraseDups_filter, map_name_grouped, grouped, List.filter_map]
    simp [Function.comp_def]
  have hold : (grouped first).map (fun r =>
      (⟨r.name, r.operations ++ operationsOf r.name (grouped second)⟩ : Resource)) =
        (nouns first).eraseDups.map fun noun =>
          ⟨noun, namesOn noun first ++ operationsOf noun (grouped second)⟩ := List.map_map
  rw [merge, hnew, hold, grouped, nouns_append, List.eraseDups_append, List.map_append]
  congr 1
  · refine List.map_congr_left fun noun _ => ?_
    rw [namesOn_append, operationsOf_grouped]
  · refine List.map_congr_left fun noun hnoun => ?_
    have hfresh : noun ∉ nouns first := by
      rw [List.mem_eraseDups, List.removeAll, List.mem_filter] at hnoun
      simpa using hnoun.2
    rw [namesOn_append, namesOn_of_notMem hfresh, List.nil_append]

/-! ## Main statements -/

/-- The resources of some operations have the nouns as names, each once, in the order in which they
first appear.  A resource lists the names of the operations with its noun, in their order and as
often as they occur.  An operation without a noun makes no difference.  The resources of two lists
of operations are those of the first with those of the second. -/
theorem ofOperations_is_stable_grouping (operations : List Operation) :
    (ofOperations operations).map Resource.name = (nouns operations).eraseDups ∧
      ((ofOperations operations).map Resource.name).Nodup ∧
      (∀ r ∈ ofOperations operations,
        r.operations =
          (operations.filter fun o => noun? o.name = some r.name).map Operation.modelName) ∧
      (∀ before o after, operations = before ++ o :: after → noun? o.name = none →
        ofOperations operations = ofOperations (before ++ after)) ∧
      ∀ first second, operations = first ++ second →
        ofOperations operations = merge (ofOperations first) (ofOperations second) := by
  simp only [ofOperations_eq_grouped]
  refine ⟨map_name_grouped operations, ?_, ?_, ?_, ?_⟩
  · rw [map_name_grouped]
    exact nodup_eraseDups _
  · intro r hr
    obtain ⟨noun, -, rfl⟩ := List.mem_map.mp hr
    rfl
  · rintro before o after rfl hnone
    have hnouns : nouns (before ++ o :: after) = nouns (before ++ after) := by
      simp [nouns, hnone]
    have hnames : ∀ noun, namesOn noun (before ++ o :: after) = namesOn noun (before ++ after) := by
      simp [namesOn, hnone]
    simp only [grouped, hnouns, hnames]
  · rintro first second rfl
    exact grouped_append first second

/-- Operations on two nouns, and one whose verb is not known. -/
def functionOperations : List Operation :=
  [{ name := "list-functions", modelName := "ListFunctions" },
    { name := "invoke-function", modelName := "InvokeFunction" },
    { name := "get-bucket", modelName := "GetBucket" },
    { name := "get-function", modelName := "GetFunction" }]

/-- These operations make two resources, in the way in which the first two and the last two do. -/
theorem ofOperations_is_stable_grouping_functionOperations :
    ofOperations functionOperations =
        [⟨"function", ["ListFunctions", "GetFunction"]⟩, ⟨"bucket", ["GetBucket"]⟩] ∧
      noun? "invoke-function" = none ∧
      (ofOperations functionOperations).map Resource.name =
        (nouns functionOperations).eraseDups ∧
      ((ofOperations functionOperations).map Resource.name).Nodup ∧
      ["ListFunctions", "GetFunction"] =
        (functionOperations.filter fun o => noun? o.name = some "function").map
          Operation.modelName ∧
      ofOperations functionOperations =
        ofOperations (functionOperations.take 1 ++ functionOperations.drop 2) ∧
      ofOperations functionOperations =
        merge (ofOperations (functionOperations.take 2))
          (ofOperations (functionOperations.drop 2)) := by
  have hresources : ofOperations functionOperations =
      [⟨"function", ["ListFunctions", "GetFunction"]⟩, ⟨"bucket", ["GetBucket"]⟩] := by
    decide +kernel
  have hnone : noun? "invoke-function" = none := by decide +kernel
  obtain ⟨hnames, hnodup, hmembers, hskip, hsplit⟩ :=
    ofOperations_is_stable_grouping functionOperations
  refine ⟨hresources, hnone, hnames, hnodup,
    hmembers ⟨"function", ["ListFunctions", "GetFunction"]⟩ ?_, hskip _ _ _ rfl hnone,
    hsplit _ _ rfl⟩
  rw [hresources]
  exact List.mem_cons_self

/-- A word in the singular stays as it is, so a noun behind any verb is that noun again; and an
operation whose noun is found in the plural and one whose name is a verb before that noun belong to
one resource, the only one of this name. -/
theorem nouns_behind_verbs_share_resource :
    (∀ word, singularize (singularize word) = singularize word) ∧
      (∀ name noun verb, noun? name = some noun → verb ∈ verbs →
        noun? (verb ++ "-" ++ noun) = some noun) ∧
      ∀ operations, ∀ o ∈ operations, ∀ other ∈ operations, ∀ noun verb,
        noun? o.name = some noun → verb ∈ verbs → other.name = verb ++ "-" ++ noun →
          ∃ r ∈ ofOperations operations, r.name = noun ∧ o.modelName ∈ r.operations ∧
            other.modelName ∈ r.operations ∧
              ∀ same ∈ ofOperations operations, same.name = noun → same = r := by
  refine ⟨singularize_singularize, fun _ _ _ => noun?_verb, ?_⟩
  intro operations o ho other hother noun verb hnoun hverb hname
  have hagain : noun? other.name = some noun := by
    rw [hname]
    exact noun?_verb hnoun hverb
  have hmem : noun ∈ nouns operations := List.mem_filterMap.mpr ⟨o, ho, hnoun⟩
  rw [ofOperations_eq_grouped]
  refine ⟨⟨noun, namesOn noun operations⟩,
    List.mem_map.mpr ⟨noun, List.mem_eraseDups.mpr hmem, rfl⟩, rfl,
    mem_namesOn.mpr ⟨o, ho, hnoun, rfl⟩, mem_namesOn.mpr ⟨other, hother, hagain, rfl⟩, ?_⟩
  intro same hsame heq
  obtain ⟨own, -, rfl⟩ := List.mem_map.mp hsame
  obtain rfl : own = noun := heq
  rfl

/-- The plural `policies` and the singular `policy` name one resource. -/
theorem nouns_behind_verbs_share_resource_policy :
    singularize (singularize "classes") = singularize "classes" ∧
      noun? "list-policies" = some "policy" ∧ "get" ∈ verbs ∧
      noun? ("get" ++ "-" ++ "policy") = some "policy" ∧
      ∃ r ∈ ofOperations [{ name := "list-policies", modelName := "ListPolicies" },
          { name := "get-policy", modelName := "GetPolicy" }],
        r.name = "policy" ∧ "ListPolicies" ∈ r.operations ∧ "GetPolicy" ∈ r.operations ∧
          ∀ same ∈ ofOperations [{ name := "list-policies", modelName := "ListPolicies" },
            { name := "get-policy", modelName := "GetPolicy" }], same.name = "policy" → same = r := by
  obtain ⟨hsingular, hverb, hshare⟩ := nouns_behind_verbs_share_resource
  have hplural : noun? "list-policies" = some "policy" := by decide +kernel
  have hget : "get" ∈ verbs := by decide
  exact ⟨hsingular "classes", hplural, hget, hverb _ _ _ hplural hget,
    hshare _ { name := "list-policies", modelName := "ListPolicies" } List.mem_cons_self
      { name := "get-policy", modelName := "GetPolicy" } (List.mem_cons_of_mem _ List.mem_cons_self)
      "policy" "get" hplural hget rfl⟩

end ServiceShell.Resource
