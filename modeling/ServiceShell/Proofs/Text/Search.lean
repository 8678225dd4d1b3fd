import Mathlib.Data.Finset.Card
import ServiceShell.Host.Column
import ServiceShell.Proofs.Signature.Parameters

/-!
# The search for a free name

A name that is taken gets the next number until it is free.  This is a loop without a bound: it ends
because numbers make different candidates, so that only as many of them can be taken as there are
taken names.  This module describes the loop by its steps and compares it with the function that
finds the first free candidate.

Main results:

- Definition `Naming.Finds`: the runs of the loop, with the number of names that are tested.
- Theorem `Naming.finds_candidate_iff`: a run that begins at a candidate ends at the first free one
  behind it.
- Definition `Naming.EndsAtFirstFree`: what is expected of the loop for a base and some taken names.
- Theorem `Naming.endsAtFirstFree_of_injective`: it holds whenever candidates differ in the form in
  which they are compared.
- Theorem `Naming.search_ends_at_first_free`: it holds for variables and for columns, and each of
  these adds its own name to those that are taken, and no other.
-/

namespace ServiceShell

namespace Naming

/-! ## Runs of the loop -/

section

variable {form : String → String} {taken : List String} {base separator : String}

/-- The runs of the search: the name that is tested, the number that comes next, how many names are
tested from there on, and the name that is found.  A free name is found by one test; behind a taken
one the search goes on with the next number. -/
inductive Finds (form : String → String) (taken : List String) (base separator : String) :
    String → Nat → Nat → String → Prop
  | free {name : String} {next : Nat} (h : form name ∉ taken) :
      Finds form taken base separator name next 1 name
  | goOn {name found : String} {next tests : Nat} (h : form name ∈ taken)
      (hrest : Finds form taken base separator (base ++ separator ++ toString next) (next + 1)
        tests found) :
      Finds form taken base separator name next (tests + 1) found

/-- A run that begins at a candidate tests the ones behind it in their order. -/
theorem Finds.exists_candidate {name found : String} {next tests k : Nat}
    (h : Finds form taken base separator name next tests found)
    (hname : name = candidate base separator k) (hnext : next = k + 2) :
    ∃ further, tests = further + 1 ∧ found = candidate base separator (k + further) ∧
      form (candidate base separator (k + further)) ∉ taken ∧
        ∀ m < further, form (candidate base separator (k + m)) ∈ taken := by
  induction h generalizing k with
  | free hfree =>
      subst hname
      exact ⟨0, rfl, rfl, hfree, fun m hm => absurd hm (Nat.not_lt_zero m)⟩
  | goOn htaken _ ih =>
      subst hname hnext
      obtain ⟨further, rfl, hfound, hfree, hbefore⟩ := ih (k := k + 1) rfl rfl
      have hshift : ∀ m, k + 1 + m = k + (m + 1) := fun m => by omega
      rw [hshift further] at hfound hfree
      refine ⟨further + 1, rfl, hfound, hfree, fun m hm => ?_⟩
      cases m with
      | zero => exact htaken
      | succ m =>
          rw [← hshift m]
          exact hbefore m (Nat.lt_of_succ_lt_succ hm)

/-- The loop passes over candidates that are taken, up to a free one. -/
theorem finds_of_forall_taken {k further : Nat}
    (hfree : form (candidate base separator (k + further)) ∉ taken)
    (hbefore : ∀ m < further, form (candidate base separator (k + m)) ∈ taken) :
    Finds form taken base separator (candidate base separator k) (k + 2) (further + 1)
      (candidate base separator (k + further)) := by
  induction further generalizing k with
  | zero => exact .free hfree
  | succ further ih =>
      have hshift : ∀ m, k + (m + 1) = k + 1 + m := fun m => by omega
      rw [hshift further] at hfree ⊢
      refine .goOn (hbefore 0 (Nat.succ_pos further)) (ih hfree fun m hm => ?_)
      rw [← hshift m]
      exact hbefore (m + 1) (Nat.succ_lt_succ hm)

/-- A run that begins at a candidate ends at the first free one behind it. -/
theorem finds_candidate_iff {found : String} {tests k : Nat} :
    Finds form taken base separator (candidate base separator k) (k + 2) tests found ↔
      ∃ further, tests = further + 1 ∧ found = candidate base separator (k + further) ∧
        form (candidate base separator (k + further)) ∉ taken ∧
          ∀ m < further, form (candidate base separator (k + m)) ∈ taken := by
  constructor
  · intro h
    exact h.exists_candidate rfl rfl
  · rintro ⟨further, rfl, rfl, hfree, hbefore⟩
    exact finds_of_forall_taken hfree hbefore

/-- A run from the base ends at the first free candidate. -/
theorem finds_base_iff {found : String} {tests : Nat} :
    Finds form taken base separator base 2 tests found ↔
      ∃ n, tests = n + 1 ∧ found = candidate base separator n ∧
        form (candidate base separator n) ∉ taken ∧
          ∀ m < n, form (candidate base separator m) ∈ taken := by
  have hiff :
      Finds form taken base separator (candidate base separator 0) (0 + 2) tests found ↔ _ :=
    finds_candidate_iff
  simpa only [Nat.zero_add, candidate_zero] using hiff

/-- Candidates that are all taken are no more than the taken names. -/
theorem le_card_of_forall_taken {n : Nat}
    (hform : Function.Injective fun n => form (candidate base separator n))
    (hbefore : ∀ m < n, form (candidate base separator m) ∈ taken) : n ≤ taken.toFinset.card := by
  have hsubset : (Finset.range n).image (fun m => form (candidate base separator m)) ⊆
      taken.toFinset := by
    intro name hname
    obtain ⟨m, hm, rfl⟩ := Finset.mem_image.mp hname
    exact List.mem_toFinset.mpr (hbefore m (Finset.mem_range.mp hm))
  have hcard := Finset.card_le_card hsubset
  rwa [Finset.card_image_of_injective _ hform, Finset.card_range] at hcard

/-! ## How the loop ends -/

/-- Whether the search for a base ends at its first free candidate, with one more test at most than
there are taken names, and in no other way.  A candidate is free if its form is not taken; where the
taken names are forms, it is not taken itself. -/
def EndsAtFirstFree (form : String → String) (taken : List String) (base separator : String) :
    Prop :=
  ∃ n ≤ taken.toFinset.card,
    (∀ tests found, Finds form taken base separator base 2 tests found ↔
      tests = n + 1 ∧ found = candidate base separator n) ∧
    firstFree form taken base separator = candidate base separator n ∧
    (∀ m < n, form (candidate base separator m) ∈ taken) ∧
    form (candidate base separator n) ∉ taken ∧
    ((∀ name ∈ taken, form name = name) → candidate base separator n ∉ taken)

/-- The search ends at the first free candidate whenever candidates differ in their forms. -/
theorem endsAtFirstFree_of_injective (taken : List String)
    (hform : Function.Injective fun n => form (candidate base separator n)) :
    EndsAtFirstFree form taken base separator := by
  obtain ⟨n, -, hresult, hfree, hbefore⟩ := firstFree_spec taken hform
  refine ⟨n, le_card_of_forall_taken hform hbefore, fun tests found => ?_, hresult, hbefore, hfree,
    fun hown hmem => ?_⟩
  · -- Two runs end at the same candidate: neither passes over a free one.
    rw [finds_base_iff]
    constructor
    · rintro ⟨further, rfl, rfl, hother, hothers⟩
      obtain rfl : further = n := by
        rcases Nat.lt_trichotomy further n with hlt | heq | hgt
        · exact absurd (hbefore further hlt) hother
        · exact heq
        · exact absurd (hothers n hgt) hfree
      exact ⟨rfl, rfl⟩
    · rintro ⟨rfl, rfl⟩
      exact ⟨n, rfl, rfl, hfree, hbefore⟩
  · rw [hown _ hmem] at hfree
    exact hfree hmem

theorem EndsAtFirstFree.exists_finds (h : EndsAtFirstFree form taken base separator) :
    ∃ tests,
      Finds form taken base separator base 2 tests (firstFree form taken base separator) := by
  obtain ⟨n, -, hruns, hresult, -⟩ := h
  exact ⟨n + 1, (hruns _ _).mpr ⟨rfl, hresult⟩⟩

/-- Two candidates are passed over, because their hyphens read as underscores. -/
example : firstFree variableOf ["max_keys", "max_keys_2"] "max-keys" "-" = "max-keys-3" := by
  decide +kernel

end

end Naming

/-! ## Runs over many names -/

/-- Behind some columns the taken names are those that were taken before, and theirs. -/
theorem Column.distinctFrom_append (taken : List String) (front rest : List Column) :
    distinctFrom taken (front ++ rest) = distinctFrom taken front ++
      distinctFrom (((distinctFrom taken front).map Column.name).reverse ++ taken) rest := by
  induction front generalizing taken with
  | nil => rfl
  | cons c front ih =>
      rw [List.cons_append, distinctFrom, ih]
      simp [distinctFrom]

/-- Behind some members the taken variables are those that were taken before, and theirs. -/
theorem Parameter.ofMembersFrom_append (settings : GeneratorSettings) (service : String)
    (taken : List String) (front rest : List (Member Shape)) :
    ofMembersFrom settings service taken (front ++ rest) =
      ofMembersFrom settings service taken front ++ ofMembersFrom settings service
        (((ofMembersFrom settings service taken front).map variableName).reverse ++ taken)
        rest := by
  induction front generalizing taken with
  | nil => rfl
  | cons m front ih =>
      rw [List.cons_append, ofMembersFrom, ih]
      simp [ofMembersFrom, variableName, ofMember]

namespace Naming

/-- The search for a free name ends with one more test at most than there are taken names, at the
first free candidate, for variables as for columns.  Each member and each column gets the name that
the search finds for it; what is taken then are the names that were taken at the start and those
given so far, and this name is the only one that is added. -/
theorem search_ends_at_first_free (taken : List String) :
    (∀ base separator, EndsAtFirstFree variableOf taken base separator) ∧
      (∀ base separator, EndsAtFirstFree id taken base separator) ∧
      (∀ settings service front m rest, ∃ before tests name,
        (∀ other, other ∈ before ↔ other ∈ taken ∨
          other ∈ (Parameter.ofMembersFrom settings service taken front).map
            Parameter.variableName) ∧
        Finds variableOf before (Parameter.wantedName m.info) (Parameter.separator m.info)
          (Parameter.wantedName m.info) 2 tests name ∧
        Parameter.ofMembersFrom settings service taken (front ++ m :: rest) =
          Parameter.ofMembersFrom settings service taken front ++
            Parameter.ofMember settings service name m ::
              Parameter.ofMembersFrom settings service (variableOf name :: before) rest) ∧
      ∀ front c rest, ∃ before tests name,
        (∀ other, other ∈ before ↔ other ∈ taken ∨
          other ∈ (Column.distinctFrom taken front).map Column.name) ∧
        Finds id before c.name "-" c.name 2 tests name ∧
        Column.distinctFrom taken (front ++ c :: rest) =
          Column.distinctFrom taken front ++
            { c with name } :: Column.distinctFrom (name :: before) rest := by
  have hvariables : ∀ taken base separator, EndsAtFirstFree variableOf taken base separator :=
    fun taken base separator =>
      endsAtFirstFree_of_injective taken (variableOf_candidate_injective base separator)
  have hnames : ∀ taken base separator, EndsAtFirstFree id taken base separator :=
    fun taken base separator =>
      endsAtFirstFree_of_injective taken (candidate_injective base separator)
  refine ⟨hvariables taken, hnames taken, ?_, ?_⟩
  · intro settings service front m rest
    obtain ⟨tests, hfinds⟩ := (hvariables _ (Parameter.wantedName m.info)
      (Parameter.separator m.info)).exists_finds
    exact ⟨_, tests, _, fun other => by simp [or_comm], hfinds,
      Parameter.ofMembersFrom_append settings service taken front (m :: rest)⟩
  · intro front c rest
    obtain ⟨tests, hfinds⟩ := (hnames _ c.name "-").exists_finds
    exact ⟨_, tests, _, fun other => by simp [or_comm], hfinds,
      Column.distinctFrom_append taken front (c :: rest)⟩

end Naming

end ServiceShell
