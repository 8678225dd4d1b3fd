import Mathlib.Data.List.Basic
import ServiceShell.Text.Naming

/-!
# What a command-line name keeps

The hyphenated form of a name is cut into words by breaks that are put in, and by what is no letter
and no digit.  This module shows that the passes lose no letter and no digit, so a name has an
empty form only if there was nothing to keep.

Main results:

- Theorem `Text.of_isAlphanum`: what holds of the letters and digits of ASCII, one by one.
- Theorem `Text.flatten_runs`: the runs of a text hold its wanted characters, in order.
- Theorem `Naming.filter_breaks`: the breaks put into a name change no letter and no digit.
- Theorem `Naming.kebab_eq_empty_iff`: a hyphenated form is empty exactly when the name has no
  letter and no digit of ASCII.
-/

namespace ServiceShell

namespace Text

/-! ## Letters and digits -/

/-- A property of letters and digits may be settled one character of ASCII after the other. -/
theorem of_isAlphanum {p : Char → Prop}
    (hall : ∀ n < 128, (Char.ofNat n).isAlphanum = true → p (Char.ofNat n)) {c : Char}
    (h : c.isAlphanum = true) : p c := by
  have hbound : c.toNat < 128 := by
    delta Char.isAlphanum Char.isAlpha Char.isUpper Char.isLower Char.isDigit at h
    simp only [Bool.or_eq_true, Bool.and_eq_true, decide_eq_true_eq, UInt32.le_iff_toNat_le] at h
    have hvalue : c.toNat = c.val.toNat := rfl
    rcases h with (⟨-, h⟩ | ⟨-, h⟩) | ⟨-, h⟩ <;> exact Nat.lt_of_le_of_lt h (by decide)
  simpa only [Char.ofNat_toNat] using hall c.toNat hbound (by rwa [Char.ofNat_toNat])

/-! ## Runs -/

theorem flatten_runsFrom (wanted : Char → Bool) (pending cs : List Char) :
    (runsFrom wanted pending cs).flatten = pending.reverse ++ cs.filter wanted := by
  induction cs generalizing pending with
  | nil =>
      simp only [runsFrom]
      split <;> rename_i hpending
      · simp [List.isEmpty_iff.mp hpending]
      · simp
  | cons c rest ih =>
      simp only [runsFrom]
      split <;> rename_i hc
      · rw [ih, List.filter_cons_of_pos hc]
        simp
      · rw [List.filter_cons_of_neg hc]
        split <;> rename_i hpending
        · rw [ih, List.isEmpty_iff.mp hpending]
        · rw [List.flatten_cons, ih]
          simp

/-- The runs of a text hold its wanted characters, in order. -/
theorem flatten_runs (wanted : Char → Bool) (cs : List Char) :
    (runs wanted cs).flatten = cs.filter wanted :=
  flatten_runsFrom wanted [] cs

/-- A text has no run exactly when it has no wanted character. -/
theorem runs_eq_nil_iff {wanted : Char → Bool} {cs : List Char} :
    runs wanted cs = [] ↔ cs.filter wanted = [] := by
  rw [← flatten_runs]
  constructor
  · intro hruns
    rw [hruns]
    rfl
  · intro hflatten
    rw [List.flatten_eq_nil_iff] at hflatten
    apply List.eq_nil_iff_forall_not_mem.mpr
    intro w hw
    exact (mem_of_mem_runs hw).1 (hflatten w hw)

theorem joinWith_cons_cons (separator : Char) (w v : List Char) (rest : List (List Char)) :
    joinWith separator (w :: v :: rest) = w ++ separator :: joinWith separator (v :: rest) := by
  rw [joinWith, List.intercalate_cons_cons, List.append_assoc, List.singleton_append]
  rfl

/-- What stands in joined parts is the separator, or stands in a part. -/
theorem mem_joinWith {separator c : Char} {parts : List (List Char)}
    (h : c ∈ joinWith separator parts) : c = separator ∨ ∃ w ∈ parts, c ∈ w := by
  induction parts with
  | nil => cases h
  | cons w rest ih =>
      cases rest with
      | nil => exact .inr ⟨w, List.mem_cons_self, by simpa [joinWith] using h⟩
      | cons v rest =>
          rw [joinWith_cons_cons, List.mem_append, List.mem_cons] at h
          rcases h with hw | hseparator | hrest
          · exact .inr ⟨w, List.mem_cons_self, hw⟩
          · exact .inl hseparator
          · refine (ih hrest).imp_right ?_
            rintro ⟨u, hu, hc⟩
            exact ⟨u, List.mem_cons_of_mem _ hu, hc⟩

/-- Parts that are not empty are joined to the empty text only if there are none. -/
theorem joinWith_eq_nil_iff {separator : Char} {parts : List (List Char)}
    (hparts : ∀ w ∈ parts, w ≠ []) : joinWith separator parts = [] ↔ parts = [] := by
  cases parts with
  | nil => simp [joinWith]
  | cons w rest =>
      have hw : w ≠ [] := hparts w List.mem_cons_self
      cases rest <;> simp [joinWith, List.intercalate, hw]

end Text

/-! ## Breaks -/

namespace Naming

open Text

/-- Breaks before capitals change no letter and no digit. -/
theorem filter_breakHumps (cs : List Char) :
    (breakHumps cs).filter Char.isAlphanum = cs.filter Char.isAlphanum := by
  fun_induction breakHumps cs with
  | case1 c d r _ ih =>
      rw [List.filter_cons, List.filter_cons_of_neg (by decide : ¬ Char.isAlphanum '-' = true), ih,
        ← List.filter_cons]
  | case2 c d r _ ih => rw [List.filter_cons, ih, ← List.filter_cons]
  | case3 => rfl

/-- The close of a run of capitals changes no letter and no digit. -/
theorem filter_closeCapitals (lowerFollows : Bool) (capitals : List Char) :
    (closeCapitals lowerFollows capitals).filter Char.isAlphanum =
      capitals.reverse.filter Char.isAlphanum := by
  unfold closeCapitals
  split
  · split
    · have hbreak : ¬ Char.isAlphanum '-' = true := by decide
      simp [List.filter_append, List.filter_cons, hbreak]
    · rfl
  · rfl

theorem filter_breakAcronymsFrom (capitals cs : List Char) :
    (breakAcronymsFrom capitals cs).filter Char.isAlphanum =
      (capitals.reverse ++ cs).filter Char.isAlphanum := by
  induction cs generalizing capitals with
  | nil =>
      rw [breakAcronymsFrom, filter_closeCapitals, List.append_nil]
  | cons c rest ih =>
      rw [breakAcronymsFrom]
      split
      · rw [ih, List.reverse_cons, List.append_assoc, List.singleton_append]
      · rw [List.filter_append, filter_closeCapitals, List.filter_append, List.filter_cons, ih,
          List.reverse_nil, List.nil_append, ← List.filter_cons]

/-- The breaks put into a name change no letter and no digit. -/
theorem filter_breaks (cs : List Char) :
    (breakAcronyms (breakHumps cs)).filter Char.isAlphanum = cs.filter Char.isAlphanum := by
  rw [breakAcronyms, filter_breakAcronymsFrom, List.reverse_nil, List.nil_append,
    filter_breakHumps]

/-! ## Names -/

/-- A hyphenated form is empty exactly when the name has no letter and no digit of ASCII. -/
theorem kebab_eq_empty_iff {name : String} :
    kebab name = "" ↔ ∀ c ∈ name.toList, c.isAlphanum = false := by
  have hwords : ∀ w ∈ runs Char.isAlphanum (breakAcronyms (breakHumps name.toList)), w ≠ [] :=
    fun w hw => (mem_of_mem_runs hw).1
  rw [kebab, joinWords, String.ofList_eq_empty_iff, List.map_eq_nil_iff,
    joinWith_eq_nil_iff hwords, runs_eq_nil_iff, filter_breaks, List.filter_eq_nil_iff]
  simp

end Naming

end ServiceShell
