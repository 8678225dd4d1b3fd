import Mathlib.Tactic.Ring
import ServiceShell.Json.Token
import ServiceShell.Record.Scalar
import ServiceShell.Text.Integer

/-!
# Values of digits

An integer that is read from digits is written with no more digits than it was read from.  So a
bound on the digits that a reader takes is a bound on the digits that a writer needs.

Main results:

- Theorem `foldl_digits_lt`: the value of digits, however it is gathered.
- Theorems `Json.digitsValue_lt`, `Decimal.digitsValue_lt` and `Text.valueIn_lt`: the readers.
- Definition `HasFewDigits`: integers that JSON text can hold.
- Theorems `Record.hasFewDigits_of_integer` and `Text.hasFewDigits_of_readInteger?`: integers that
  were read.
-/

namespace ServiceShell

/-! ## Values -/

/-- Digits that are gathered one by one have a value below that of a one with as many zeros. -/
theorem foldl_digits_lt {α : Type} {step : Nat → α → Nat} {items : List α}
    (h : ∀ n, ∀ a ∈ items, step n a < 10 * (n + 1)) (n : Nat) :
    items.foldl step n < (n + 1) * 10 ^ items.length := by
  induction items generalizing n with
  | nil => simp
  | cons a items ih =>
      have hfirst : step n a + 1 ≤ 10 * (n + 1) := h n a List.mem_cons_self
      have hrest := ih (fun n b hb => h n b (List.mem_cons_of_mem _ hb)) (step n a)
      calc (a :: items).foldl step n
          < (step n a + 1) * 10 ^ items.length := hrest
        _ ≤ 10 * (n + 1) * 10 ^ items.length := Nat.mul_le_mul_right _ hfirst
        _ = (n + 1) * 10 ^ (a :: items).length := by rw [List.length_cons]; ring

/-- A digit counts for less than ten. -/
theorem toNat_sub_lt_of_isDigit {c : Char} (h : c.isDigit = true) : c.toNat - '0'.toNat < 10 := by
  have hbounds : 48 ≤ c.toNat ∧ c.toNat ≤ 57 := by
    simpa [Char.isDigit, UInt32.le_iff_toNat_le] using h
  have hzero : '0'.toNat = 48 := rfl
  omega

/-- A row of digits has a value that is written with no more of them. -/
theorem Json.digitsValue_lt {ds : List Char} (h : ∀ c ∈ ds, c.isDigit = true) :
    digitsValue ds < 10 ^ ds.length := by
  have hstep : ∀ n, ∀ c ∈ ds, 10 * n + (c.toNat - '0'.toNat) < 10 * (n + 1) := by
    intro n c hc
    have hdigit := toNat_sub_lt_of_isDigit (h c hc)
    omega
  simpa [digitsValue] using foldl_digits_lt hstep 0

/-- The same where anything else is passed over. -/
theorem Decimal.digitsValue_lt (cs : List Char) : digitsValue cs < 10 ^ cs.length := by
  have hstep : ∀ n, ∀ c ∈ cs,
      (if c.isDigit then 10 * n + (c.toNat - '0'.toNat) else n) < 10 * (n + 1) := by
    intro n c _
    split <;> rename_i hc
    · have hdigit := toNat_sub_lt_of_isDigit hc
      omega
    · omega
  simpa [digitsValue] using foldl_digits_lt hstep 0

/-- A digit is no underscore, so there are as many digits as other characters, or less. -/
theorem Text.length_filterMap_digitIn?_le (cs : List Char) :
    (cs.filterMap (digitIn? 10)).length ≤ cs.countP (· ≠ '_') := by
  have hunderscore : digitIn? 10 '_' = none := by decide
  induction cs with
  | nil => rfl
  | cons c cs ih =>
      rw [List.filterMap_cons, List.countP_cons]
      cases hdigit : digitIn? 10 c with
      | none => exact ih.trans (Nat.le_add_right _ _)
      | some d =>
          have hc : c ≠ '_' := by
            rintro rfl
            rw [hunderscore] at hdigit
            cases hdigit
          simpa [hc] using ih

/-- The same for digits of any script, and underscores among them. -/
theorem Text.valueIn_lt (cs : List Char) : valueIn 10 cs < 10 ^ cs.countP (· ≠ '_') := by
  have hstep : ∀ n, ∀ d ∈ cs.filterMap (digitIn? 10), 10 * n + d < 10 * (n + 1) := by
    intro n d hd
    obtain ⟨c, -, hc⟩ := List.mem_filterMap.mp hd
    have hlt : d < 10 := by simpa using (Option.filter_eq_some_iff.mp hc).2
    omega
  have hfold := foldl_digits_lt hstep 0
  rw [Nat.zero_add, Nat.one_mul] at hfold
  exact hfold.trans_le (Nat.pow_le_pow_right (by decide) (length_filterMap_digitIn?_le cs))

/-! ## Integers that were read -/

/-- Whether an integer has few enough digits for JSON text. -/
def HasFewDigits (n : Int) : Prop := (Nat.toDigits 10 n.natAbs).length ≤ Json.digitLimit

theorem hasFewDigits_of_lt {n : Int} {width : Nat} (h : n.natAbs < 10 ^ width)
    (hpos : 0 < width) (hwidth : width ≤ Json.digitLimit) : HasFewDigits n :=
  ((Nat.length_toDigits_le_iff (by decide) hpos).mpr h).trans hwidth

/-- An integer of one digit has few digits. -/
theorem hasFewDigits_of_lt_ten {n : Int} (h : n.natAbs < 10 ^ 1) : HasFewDigits n :=
  hasFewDigits_of_lt h (by decide) (by decide)

theorem natAbs_signed (negative : Bool) (n : Nat) : (Decimal.signed negative n).natAbs = n := by
  cases negative <;> simp [Decimal.signed]

theorem Record.hasFewDigits_of_bareInteger {cs : List Char} {n : Int}
    (h : bareInteger cs = .read n) : HasFewDigits n := by
  unfold bareInteger at h
  simp only at h
  generalize (if cs.head? = some '-' then cs.drop 1 else cs) = magnitude at h
  split at h
  · split at h
    · cases h
      exact hasFewDigits_of_lt_ten (by decide)
    · cases h
  · split at h <;> rename_i hsize
    · cases h
    · split at h <;> rename_i hform
      · cases h
      · cases h
        rw [Bool.or_eq_true, not_or] at hform
        refine hasFewDigits_of_lt ((natAbs_signed _ _).trans_lt (Decimal.digitsValue_lt _)) ?_ ?_
        · rw [List.length_pos_iff]
          simpa using hform.1
        · have hlimit : integerTextLimit = Json.digitLimit := rfl
          omega

/-- An integer that a record holds has few digits, if the value that it was read from has. -/
theorem Record.hasFewDigits_of_integer {d : Document} {n : Int}
    (hd : ∀ m, d = .int m → HasFewDigits m) (h : integer d = .read n) : HasFewDigits n := by
  unfold integer at h
  split at h
  · cases h
    exact hd n rfl
  · cases h
    split <;> exact hasFewDigits_of_lt_ten (by decide)
  · unfold integerFromFloat at h
    split at h
    · cases h
    · split at h
      · cases h
      · split at h <;> rename_i hword
        · cases h
          have hlimit : wordLimit ≤ 10 ^ 19 := by decide
          exact hasFewDigits_of_lt (hword.trans_le hlimit) (by decide) (by decide)
        · cases h
  · unfold integerFromText at h
    split at h
    · exact hasFewDigits_of_bareInteger h
    · cases h
  · cases h

/-- An integer that a user writes has few digits. -/
theorem Text.hasFewDigits_of_readInteger? {text : String} {n : Int}
    (h : readInteger? text = some n) : HasFewDigits n := by
  have hvalue : ∀ (negative : Bool) (run : List Char), run.countP (· ≠ '_') ≠ 0 →
      run.countP (· ≠ '_') ≤ integerDigitLimit →
      HasFewDigits (if negative then -(valueIn 10 run : Int) else valueIn 10 run) := by
    intro negative run hpos hfew
    refine hasFewDigits_of_lt ?_ (Nat.pos_of_ne_zero hpos) hfew
    rw [show (if negative then -(valueIn 10 run : Int) else valueIn 10 run).natAbs =
      valueIn 10 run by cases negative <;> simp]
    exact valueIn_lt run
  rw [readInteger?] at h
  cases hread : readIntegerIn 10 text.toList with
  | error problem =>
      rw [hread] at h
      cases h
  | ok m =>
      rw [hread] at h
      cases h
      unfold readIntegerIn at hread
      simp only at hread
      split at hread
      all_goals
        split at hread <;> rename_i hform
        · cases hread
        · split at hread <;> rename_i hlimit
          · cases hread
          · split at hread
            · cases hread
            · cases hread
              rw [Bool.or_eq_true, not_or, decide_eq_true_eq] at hform
              rw [true_and, Nat.not_lt] at hlimit
              exact hvalue _ _ hform.1 hlimit

end ServiceShell
