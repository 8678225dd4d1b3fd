import Mathlib.Algebra.Ring.Nat
import ServiceShell.Schema.Basic
import ServiceShell.Schema.Validation

/-!
# Times in schemas

A schema tells when it was made.  The check reads the time block by block, as it is written: digits
of a fixed number, and marks between them.

Main results:

- Definition `Instant.OnClock`: the times that a clock can show.
- Theorem `Schema.afterForm?_padded`: the reader goes past a number that fits.
- Theorem `Schema.isTime_timestamp`: what a clock shows is written as a time.
-/

namespace ServiceShell

/-! ## Clocks -/

/-- Whether a clock can show a time: a day of a year of four digits, and a time of that day. -/
structure Instant.OnClock (t : Instant) : Prop where
  /-- The year has four digits at most. -/
  year_le : t.date.year ≤ 9999
  /-- There are twelve months. -/
  month_le : t.date.month ≤ 12
  /-- A month has 31 days at most. -/
  day_le : t.date.day ≤ 31
  /-- A day has 24 hours. -/
  hour_lt : t.hour < 24
  /-- An hour has 60 minutes. -/
  minute_lt : t.minute < 60
  /-- A minute has 60 seconds. -/
  second_lt : t.second < 60

/-! ## Digits -/

namespace Text

/-- The digits of ASCII are decimal digits. -/
theorem isDecimal_of_isDigit {c : Char} (hc : c.isDigit = true) : isDecimal c = true := by
  have hrange : 48 ≤ c.toNat ∧ c.toNat ≤ 57 := by
    simpa [Char.isDigit, UInt32.le_iff_toNat_le] using hc
  simp [isDecimal, digitValue?, zeroDigits, hrange]

end Text

namespace Schema

/-! ## Forms of times -/

/-- What follows as many digits as a form asks for. -/
theorem afterForm?_replicate {width : Nat} {form digits rest : List Char}
    (hlength : digits.length = width) (hdigits : ∀ c ∈ digits, c.isDigit = true) :
    afterForm? (List.replicate width '0' ++ form) (digits ++ rest) = afterForm? form rest := by
  induction digits generalizing width with
  | nil =>
      rw [← hlength]
      rfl
  | cons c digits ih =>
      have hc := Text.isDecimal_of_isDigit (hdigits c List.mem_cons_self)
      have hrest := ih rfl fun d hd => hdigits d (List.mem_cons_of_mem _ hd)
      rw [← hlength, List.length_cons, List.replicate_succ, List.cons_append, List.cons_append,
        afterForm?]
      simpa [hc] using hrest

/-- A number that fits is written with as many digits as a form asks for. -/
theorem afterForm?_padded {width n : Nat} {form rest : List Char} (hwidth : 0 < width)
    (hn : n < 10 ^ width) :
    afterForm? (List.replicate width '0' ++ form) (Decimal.padded width n ++ rest) =
      afterForm? form rest := by
  have hlength : (Nat.toDigits 10 n).length ≤ width :=
    (Nat.length_toDigits_le_iff (by decide) hwidth).mpr hn
  refine afterForm?_replicate ?_ ?_
  · simp only [Decimal.padded, List.length_append, List.length_replicate]
    omega
  · intro c hc
    rcases List.mem_append.mp hc with hzero | hdigit
    · rw [List.eq_of_mem_replicate hzero]
      rfl
    · exact Nat.isDigit_of_mem_toDigits (by decide) (by decide) hdigit

/-- A mark of a form is followed by what follows it in the text. -/
theorem afterForm?_mark {mark : Char} {form rest : List Char} (hmark : mark ≠ '0') :
    afterForm? (mark :: form) (mark :: rest) = afterForm? form rest := by
  simp [afterForm?, hmark]

/-- What a clock shows is written as a time. -/
theorem isTime_timestamp {now : Instant} (hnow : now.OnClock) :
    isTime (timestamp now) = true := by
  have hform : timeForm = List.replicate 4 '0' ++ '-' :: (List.replicate 2 '0' ++ '-' ::
      (List.replicate 2 '0' ++ 'T' :: (List.replicate 2 '0' ++ ':' ::
        (List.replicate 2 '0' ++ ':' :: (List.replicate 2 '0' ++ []))))) := by decide
  have htext : (timestamp now).toList = Decimal.padded 4 now.date.year ++ '-' ::
      (Decimal.padded 2 now.date.month ++ '-' :: (Decimal.padded 2 now.date.day ++ 'T' ::
        (Decimal.padded 2 now.hour ++ ':' :: (Decimal.padded 2 now.minute ++ ':' ::
          (Decimal.padded 2 now.second ++ ['Z']))))) := by
    simp [timestamp, Date.spelling, decimalPadded]
  have hafter : afterForm? timeForm (timestamp now).toList = some ['Z'] := by
    rw [hform, htext, afterForm?_padded (by decide) (Nat.lt_succ_of_le hnow.year_le),
      afterForm?_mark (by decide),
      afterForm?_padded (by decide) (Nat.lt_of_le_of_lt hnow.month_le (by decide)),
      afterForm?_mark (by decide),
      afterForm?_padded (by decide) (Nat.lt_of_le_of_lt hnow.day_le (by decide)),
      afterForm?_mark (by decide),
      afterForm?_padded (by decide) (Nat.lt_trans hnow.hour_lt (by decide)),
      afterForm?_mark (by decide),
      afterForm?_padded (by decide) (Nat.lt_trans hnow.minute_lt (by decide)),
      afterForm?_mark (by decide),
      afterForm?_padded (by decide) (Nat.lt_trans hnow.second_lt (by decide)), afterForm?]
  unfold isTime
  rw [hafter]
  rfl

end Schema

end ServiceShell
