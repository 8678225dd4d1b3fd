import Mathlib.Data.List.TakeWhile
import ServiceShell.Json.Reader

/-!
# Where the tokens of a text come from

Every token of a text begins at some place in it.  So an integer with too many digits, which makes
reading fail in a way of its own, comes from a row of as many digits in the text.

Main results:

- Theorem `Json.exists_tokenAt_of_mem`: the place where a token begins.
- Theorem `Json.word_or_number_of_tokenAt`: a scalar is a word or a number.
- Theorem `Json.holdsDigits_of_parse`: a text in which an integer has too many digits.
-/

namespace ServiceShell.Json

/-! ## Places -/

/-- Every token begins at some place in the text. -/
theorem exists_tokenAt_of_mem {offset skipped : Nat} {cs : List Char} {t : Token × Nat}
    (h : t ∈ tokensFrom offset skipped cs) :
    ∃ c r further, c :: r <:+ cs ∧ tokenAt c r = (t.1, further) := by
  induction cs generalizing offset skipped with
  | nil => cases h
  | cons c r ih =>
      have hlater : ∀ {offset skipped}, t ∈ tokensFrom offset skipped r →
          ∃ d ds further, d :: ds <:+ c :: r ∧ tokenAt d ds = (t.1, further) := by
        intro offset skipped hmem
        obtain ⟨d, ds, further, hsuffix, htoken⟩ := ih hmem
        exact ⟨d, ds, further, hsuffix.trans (List.suffix_cons c r), htoken⟩
      cases skipped with
      | succ n => exact hlater h
      | zero =>
          rw [tokensFrom] at h
          split at h
          · exact hlater h
          · rcases List.mem_cons.mp h with rfl | hrest
            · exact ⟨c, r, _, List.suffix_refl _, rfl⟩
            · exact hlater hrest

/-! ## Scalars -/

/-- Whether a token is a word or a number. -/
def Token.IsPlain : Token → Prop
  | .scalar _ | .hugeInteger _ => True
  | _ => False

/-- A scalar is a word, or a number behind its sign. -/
theorem word_or_number_of_plainToken {cs : List Char} {t : Token} {used : Nat} (ht : t.IsPlain)
    (h : plainToken cs = (t, used)) :
    (∃ w ∈ words, t = .scalar w.2) ∨
      ∃ negative ds used, ds <:+ cs ∧ unsignedToken? negative ds = some (t, used) := by
  unfold plainToken at h
  split at h
  · rename_i found hword
    obtain ⟨w, hw, rfl⟩ := Option.map_eq_some_iff.mp hword
    cases h
    exact .inl ⟨w, List.mem_of_find?_eq_some hw, rfl⟩
  · refine .inr ?_
    simp only at h
    split at h
    · rename_i r _
      cases hnumber : unsignedToken? true r with
      | none =>
          rw [hnumber] at h
          cases h
          exact ht.elim
      | some found =>
          rw [hnumber] at h
          cases h
          exact ⟨true, r, found.2, List.suffix_cons _ _, hnumber⟩
    · cases hnumber : unsignedToken? false cs with
      | none =>
          rw [hnumber] at h
          cases h
          exact ht.elim
      | some found =>
          rw [hnumber] at h
          cases h
          exact ⟨false, cs, used, List.suffix_refl _, hnumber⟩

theorem word_or_number_of_tokenAt {c : Char} {r : List Char} {t : Token} {further : Nat}
    (ht : t.IsPlain) (h : tokenAt c r = (t, further)) :
    (∃ w ∈ words, t = .scalar w.2) ∨
      ∃ negative ds used, ds <:+ c :: r ∧ unsignedToken? negative ds = some (t, used) := by
  unfold tokenAt at h
  split at h
  case h_1 | h_2 | h_3 | h_4 | h_5 | h_6 =>
    cases h
    exact ht.elim
  · unfold quotedToken at h
    split at h <;> cases h <;> exact ht.elim
  · cases hplain : plainToken (c :: r) with
    | mk token length =>
        simp only [hplain] at h
        cases h
        exact word_or_number_of_plainToken ht hplain

/-! ## Rows of digits -/

/-- Whether a text holds a row of digits of a length. -/
def HoldsDigits (text : String) (count : Nat) : Prop :=
  ∃ digits, digits <:+: text.toList ∧ (∀ c ∈ digits, c.isDigit = true) ∧ digits.length = count

theorem isPrefix_wholeDigits (cs : List Char) :
    wholeDigits cs <+: cs ∧ ∀ c ∈ wholeDigits cs, c.isDigit = true := by
  unfold wholeDigits
  split
  · refine ⟨List.prefix_append ['0'] _, fun c hc => ?_⟩
    rw [List.mem_singleton.mp hc]
    rfl
  · exact ⟨List.takeWhile_prefix _, fun c hc => List.mem_takeWhile_imp hc⟩

/-- An integer with too many digits begins with them. -/
theorem eq_length_of_unsignedToken? {negative : Bool} {cs : List Char} {count used : Nat}
    (h : unsignedToken? negative cs = some (.hugeInteger count, used)) :
    (wholeDigits cs).length = count ∧ digitLimit < count := by
  unfold unsignedToken? at h
  simp only at h
  generalize (if (fractionDigits (cs.drop (wholeDigits cs).length)).isEmpty then 0
    else (fractionDigits (cs.drop (wholeDigits cs).length)).length + 1) = fractionLength at h
  split at h
  · cases h
  · split at h
    · split at h <;> rename_i hmany
      · cases h
        exact ⟨rfl, hmany⟩
      · cases h
    · cases h

/-- A text with a token for such an integer holds a row of as many digits. -/
theorem holdsDigits_of_mem_tokens {text : String} {count place : Nat}
    (h : (.hugeInteger count, place) ∈ tokens text.toList) :
    HoldsDigits text count ∧ digitLimit < count := by
  obtain ⟨c, r, _, hplace, htoken⟩ := exists_tokenAt_of_mem h
  rcases word_or_number_of_tokenAt (t := .hugeInteger count) trivial htoken with
    ⟨_, _, hword⟩ | ⟨_, ds, _, hds, hnumber⟩
  · cases hword
  · obtain ⟨hlength, hmany⟩ := eq_length_of_unsignedToken? hnumber
    obtain ⟨hfront, hdigits⟩ := isPrefix_wholeDigits ds
    exact ⟨⟨_, hfront.isInfix.trans (hds.trans hplace).isInfix, hdigits, hlength⟩, hmany⟩

/-! ## Reading -/

/-- Only the token for such an integer makes reading fail for it. -/
theorem State.eq_hugeInteger_of_step {s : State} {token : Token} {offset count : Nat}
    (h : s.step token offset = .error (.tooManyDigits count)) : token = .hugeInteger count := by
  have hvalue : s.beginValue token offset = .error (.tooManyDigits count) →
      token = .hugeInteger count := by
    intro hbegin
    unfold beginValue at hbegin
    split at hbegin <;> cases hbegin
    rfl
  have hfield : s.beginField token offset ≠ .error (.tooManyDigits count) := by
    intro hbegin
    unfold beginField at hbegin
    split at hbegin <;> cases hbegin
  unfold step at h
  split at h
  case h_1 | h_3 => exact hvalue h
  case h_9 | h_10 => exact absurd h hfield
  all_goals cases h

theorem State.mem_of_run {s : State} {length count : Nat} {ts : List (Token × Nat)}
    (h : s.run length ts = .error (.tooManyDigits count)) :
    ∃ place, (.hugeInteger count, place) ∈ ts := by
  induction ts generalizing s with
  | nil =>
      rw [run] at h
      split at h <;> cases h
  | cons t ts ih =>
      rw [run] at h
      split at h
      · obtain ⟨place, hmem⟩ := ih h
        exact ⟨place, List.mem_cons_of_mem _ hmem⟩
      · rename_i hstep
        cases h
        refine ⟨t.2, ?_⟩
        rw [← eq_hugeInteger_of_step hstep]
        exact List.mem_cons_self

/-- A text in which an integer has too many digits holds a row of as many digits. -/
theorem holdsDigits_of_parse {text : String} {count : Nat}
    (h : parse text = .error (.tooManyDigits count)) :
    HoldsDigits text count ∧ digitLimit < count := by
  unfold parse at h
  simp only at h
  split at h
  · cases h
  · split at h
    · cases h
    · rename_i refusal hrun
      cases refusal with
      | problem what offset => cases h
      | tooManyDigits n =>
          cases h
          obtain ⟨place, hmem⟩ := State.mem_of_run hrun
          exact holdsDigits_of_mem_tokens hmem

end ServiceShell.Json
