import Mathlib.Data.List.TakeWhile
import ServiceShell.Text.Plain

/-!
# References that cannot be read

A reference by a decimal number stands for the character of that number, however large the number
is.  Only its digits are limited: one with too many of them is not read at all, and with it the text
that has it.

Main results:

- Definition `Text.Entity.HasOverlong`: whether a text has a reference with too many digits.
- Theorem `Text.Entity.overlong?_eq_none_iff`: the search for such a reference finds one if there is
  one.
- Theorem `Text.overlong?_eq_none_iff`: when marked-up documentation can be read.
-/

namespace ServiceShell.Text

namespace Entity

/-- Whether a text has a reference by a decimal number of `count` digits, and these are more than
are read. -/
def HasOverlong (cs : List Char) (count : Nat) : Prop :=
  ∃ before digits after, cs = before ++ '&' :: '#' :: (digits ++ after) ∧
    (∀ c ∈ digits, c.isDigit = true) ∧ (∀ c ∈ after.head?, c.isDigit = false) ∧
    digits.length = count ∧ integerDigitLimit < count

/-- The digits at the start of a text are those in front of the first other character. -/
theorem takeWhile_isDigit_eq_iff {r digits : List Char} :
    r.takeWhile Char.isDigit = digits ↔
      ∃ after, r = digits ++ after ∧ (∀ c ∈ digits, c.isDigit = true) ∧
        ∀ c ∈ after.head?, c.isDigit = false := by
  constructor
  · rintro rfl
    refine ⟨r.dropWhile Char.isDigit, List.takeWhile_append_dropWhile.symm, ?_, ?_⟩
    · exact fun c hc => List.mem_takeWhile_imp hc
    · intro c hc
      have hhead := List.head?_dropWhile_not Char.isDigit r
      rw [Option.mem_def.mp hc] at hhead
      simpa using hhead
  · rintro ⟨after, rfl, hdigits, hafter⟩
    rw [List.takeWhile_append_of_pos hdigits]
    cases after with
    | nil => rw [List.takeWhile_nil, List.append_nil]
    | cons c after =>
        have hc : ¬ c.isDigit = true := by
          rw [hafter c rfl]
          exact Bool.false_ne_true
        rw [List.takeWhile_cons_of_neg hc, List.append_nil]

theorem overlongStart?_eq_some_iff {cs : List Char} {count : Nat} :
    overlongStart? cs = some count ↔
      ∃ digits after, cs = '&' :: '#' :: (digits ++ after) ∧
        (∀ c ∈ digits, c.isDigit = true) ∧ (∀ c ∈ after.head?, c.isDigit = false) ∧
        digits.length = count ∧ integerDigitLimit < count := by
  constructor
  · intro h
    unfold overlongStart? at h
    split at h
    · rename_i r
      obtain ⟨hlong, hcount⟩ := Option.ite_none_right_eq_some.mp h
      obtain rfl := Option.some.inj hcount
      obtain ⟨after, hr, hdigits, hafter⟩ := takeWhile_isDigit_eq_iff.mp (rfl :
        r.takeWhile Char.isDigit = _)
      exact ⟨_, after, congrArg _ (congrArg _ hr), hdigits, hafter, rfl, hlong⟩
    · cases h
  · rintro ⟨digits, after, rfl, hdigits, hafter, rfl, hlong⟩
    have hrun : (digits ++ after).takeWhile Char.isDigit = digits :=
      takeWhile_isDigit_eq_iff.mpr ⟨after, rfl, hdigits, hafter⟩
    rw [overlongStart?, hrun]
    exact if_pos hlong

/-- What is found is the number of digits of a reference of the text. -/
theorem hasOverlong_of_overlong? {cs : List Char} {count : Nat} (h : overlong? cs = some count) :
    HasOverlong cs count := by
  induction cs with
  | nil => cases h
  | cons c r ih =>
      rw [overlong?, Option.or_eq_some_iff] at h
      rcases h with hstart | ⟨-, hrest⟩
      · obtain ⟨digits, after, heq, hlong⟩ := overlongStart?_eq_some_iff.mp hstart
        exact ⟨[], digits, after, heq, hlong⟩
      · obtain ⟨before, digits, after, rfl, hlong⟩ := ih hrest
        exact ⟨c :: before, digits, after, rfl, hlong⟩

/-- All references of a text can be read exactly if none is by a decimal number of too many
digits. -/
theorem overlong?_eq_none_iff {cs : List Char} :
    overlong? cs = none ↔ ∀ count, ¬ HasOverlong cs count := by
  constructor
  · rintro hnone count ⟨before, digits, after, rfl, hlong⟩
    induction before with
    | nil =>
        rw [List.nil_append, overlong?, Option.or_eq_none_iff] at hnone
        have hstart := overlongStart?_eq_some_iff.mpr ⟨digits, after, rfl, hlong⟩
        rw [hnone.1] at hstart
        cases hstart
    | cons c before ih =>
        rw [List.cons_append, overlong?, Option.or_eq_none_iff] at hnone
        exact ih hnone.2
  · intro hnone
    cases h : overlong? cs with
    | none => rfl
    | some count => exact absurd (hasOverlong_of_overlong? h) (hnone count)

end Entity

/-- Whether marked-up documentation can be read: when its tags are gone, no reference with too many
digits is left. -/
def IsReadable (text : String) : Prop :=
  ∀ count, ¬ Entity.HasOverlong (substitute tag? text.toList) count

/-- Documentation can be read exactly if no reference with too many digits is found in it. -/
theorem overlong?_eq_none_iff {text : String} : overlong? text = none ↔ IsReadable text :=
  Entity.overlong?_eq_none_iff

instance (text : String) : Decidable (IsReadable text) :=
  decidable_of_iff _ overlong?_eq_none_iff

/-- A reference by a number with one digit more than is read. -/
def longReference : String :=
  String.ofList ('&' :: '#' :: List.replicate (integerDigitLimit + 1) '1')

theorem not_isReadable_longReference : ¬ IsReadable longReference := by
  intro hreadable
  have hdigits : ∀ c ∈ List.replicate (integerDigitLimit + 1) '1', c.isDigit = true := by
    intro c hc
    rw [List.eq_of_mem_replicate hc]
    rfl
  have hmarkup : substitute tag? longReference.toList = longReference.toList := by
    refine substitute_of_forall_none fun t ht => ?_
    unfold tag?
    split
    · exfalso
      have hmem := ht.subset List.mem_cons_self
      simp [longReference, List.mem_replicate] at hmem
    · rfl
  refine hreadable (integerDigitLimit + 1) ?_
  rw [hmarkup, longReference, String.toList_ofList]
  refine ⟨[], _, [], by rw [List.append_nil, List.nil_append], hdigits, ?_,
    List.length_replicate, Nat.lt_succ_self _⟩
  intro c hc
  cases hc

end ServiceShell.Text
