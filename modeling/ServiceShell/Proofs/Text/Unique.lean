import Mathlib.Data.List.Nodup
import ServiceShell.Text.Naming

/-!
# Names that are found free

A name that is taken gets a number.  As long as numbers make different names, one more candidate
than there are taken names is enough to find a free one, and it is the first free one.

Main results:

- Theorem `Naming.firstFree_spec`: what is found is the first free candidate.
- Theorem `Naming.variableOf_candidate_injective`: the variables of the candidates are distinct,
  whatever stands before their numbers.
- Theorem `Naming.variableOf_firstFree_notMem`: the variable of the name that is found is not taken.
-/

namespace ServiceShell.Naming

/-! ## The first free candidate -/

section FirstFree

variable {form : String → String} {base separator : String}

/-- Distinct candidates cannot all be taken, when there are more of them than taken names. -/
theorem exists_free_candidate (taken : List String)
    (hform : Function.Injective fun n => form (candidate base separator n)) :
    ∃ n ∈ List.range (taken.length + 1), form (candidate base separator n) ∉ taken := by
  by_contra hall
  push Not at hall
  have hsubset : (List.range (taken.length + 1)).map
      (fun n => form (candidate base separator n)) ⊆ taken := by
    intro name hname
    obtain ⟨n, hn, rfl⟩ := List.mem_map.mp hname
    exact hall n hn
  have hlength := (List.nodup_range.map hform).length_le_of_subset hsubset
  rw [List.length_map, List.length_range] at hlength
  omega

/-- What is found is the first candidate that is free; it is among as many as there are taken
names, and one more. -/
theorem firstFree_spec (taken : List String)
    (hform : Function.Injective fun n => form (candidate base separator n)) :
    ∃ n ≤ taken.length, firstFree form taken base separator = candidate base separator n ∧
      form (candidate base separator n) ∉ taken ∧
        ∀ m < n, form (candidate base separator m) ∈ taken := by
  let isFree : Nat → Bool := fun n => !taken.contains (form (candidate base separator n))
  have hfree : ∃ n, (List.range (taken.length + 1)).find? isFree = some n := by
    obtain ⟨n, hn, hnot⟩ := exists_free_candidate taken hform
    rw [← Option.isSome_iff_exists, List.find?_isSome]
    exact ⟨n, hn, by simpa [isFree] using hnot⟩
  obtain ⟨n, hfind⟩ := hfree
  have hresult : firstFree form taken base separator = candidate base separator n := by
    simp only [firstFree, List.find?_map]
    rw [show (fun name => !taken.contains (form name)) ∘ candidate base separator = isFree from rfl,
      hfind]
    rfl
  obtain ⟨hn, hrange, hbefore⟩ := List.find?_range_eq_some.mp hfind
  refine ⟨n, ?_, hresult, ?_, ?_⟩
  · rw [List.mem_range] at hrange
    omega
  · simpa [isFree] using hn
  · intro m hm
    simpa [isFree] using hbefore m hm

end FirstFree

/-! ## Numbers -/

/-- Different numbers are written differently. -/
theorem toString_injective : Function.Injective (toString : Nat → String) := by
  intro m n heq
  have hdigits : Nat.toDigits 10 m = Nat.toDigits 10 n := by
    simpa only [Nat.toString_eq_repr, Nat.toList_repr] using congrArg String.toList heq
  have hread := congrArg (fun digits => Nat.ofDigitChars 10 digits 0) hdigits
  simpa [Nat.ofDigitChars_toDigits] using hread

/-- Different numbers make different candidates, whatever form the text before them has. -/
theorem numbered_injective (start separator : String) {candidates : Nat → String}
    (hzero : candidates 0 = start)
    (hsucc : ∀ n, candidates (n + 1) = start ++ separator ++ toString (n + 2)) :
    Function.Injective candidates := by
  have hnumber : ∀ n, candidates (n + 1) ≠ start := by
    intro n heq
    rw [hsucc] at heq
    have hlength := congrArg String.length heq
    have hdigits : 0 < (toString (n + 2)).length := Nat.length_repr_pos
    simp only [String.length_append] at hlength
    omega
  intro m n heq
  cases m with
  | zero =>
      cases n with
      | zero => rfl
      | succ n => exact absurd (heq.symm.trans hzero) (hnumber n)
  | succ m =>
      cases n with
      | zero => exact absurd (heq.trans hzero) (hnumber m)
      | succ n =>
          rw [hsucc, hsucc] at heq
          have hnumbers := toString_injective ((String.append_right_inj _).mp heq)
          omega

/-- Different numbers make different candidates. -/
theorem candidate_injective (base separator : String) :
    Function.Injective (candidate base separator) :=
  numbered_injective base separator rfl fun _ => rfl

/-! ## Variables -/

@[simp] theorem variableOf_append (s t : String) :
    variableOf (s ++ t) = variableOf s ++ variableOf t := by
  simp [variableOf]

/-- A text without hyphens is its own variable. -/
theorem variableOf_of_forall_ne {s : String} (hs : ∀ c ∈ s.toList, c ≠ '-') :
    variableOf s = s := by
  have hmap : s.toList.map (fun c => if c = '-' then '_' else c) = s.toList := by
    rw [List.map_congr_left fun c hc => if_neg (hs c hc), List.map_id']
  rw [variableOf, hmap, String.ofList_toList]

/-- A number is its own variable. -/
@[simp] theorem variableOf_repr (n : Nat) : variableOf n.repr = n.repr := by
  apply variableOf_of_forall_ne
  rintro c hc rfl
  rw [Nat.toList_repr] at hc
  have hdigit := Nat.isDigit_of_mem_toDigits (by decide) (by decide) hc
  exact absurd hdigit (by decide)

/-- The variables of the candidates are distinct, whatever stands before their numbers. -/
theorem variableOf_candidate_injective (base separator : String) :
    Function.Injective fun n => variableOf (candidate base separator n) :=
  numbered_injective (variableOf base) (variableOf separator) rfl
    fun n => by simp [candidate]

/-- The variable of the name that is found is not taken. -/
theorem variableOf_firstFree_notMem (taken : List String) (base separator : String) :
    variableOf (firstFree variableOf taken base separator) ∉ taken := by
  obtain ⟨n, -, hresult, hfree, -⟩ :=
    firstFree_spec taken (variableOf_candidate_injective base separator)
  rw [hresult]
  exact hfree

end ServiceShell.Naming
