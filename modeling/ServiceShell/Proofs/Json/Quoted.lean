import Mathlib.Data.List.Basic
import ServiceShell.Json.Token
import ServiceShell.Text.Quoted

/-!
# Quoted texts are read back

What is written between quotes is read back as the text that it stands for, in either alphabet, also
when the characters of markup are shielded.  So two texts that are quoted alike are equal.

Main results:

- Definition `Json.IsWritten`: the ways in which a character may be written between quotes.
- Theorem `Json.quotedFrom_written`: what is written for a character is read as that character.
- Theorem `Json.quotedFrom_quoted`: a quoted text is read up to its closing quote.
- Theorem `Text.Alphabet.quote_injective`: different texts are quoted differently.
- Theorem `Text.shieldMarkup_quoteChars_eq_iff`: when a shielded text is the same as a quoted one.
-/

namespace ServiceShell

open Text

namespace Json

/-! ## Units -/

/-- A digit is read as its value. -/
theorem hexValue?_hexDigit (n : Nat) : hexValue? (hexDigit n) = some (n % 16) := by
  have hdigits : ∀ k < 16, hexValue? (Nat.digitChar k) = some k := by decide
  exact hdigits (n % 16) (Nat.mod_lt n (by decide))

/-- Four digits are read as their unit, when the text goes on behind them. -/
theorem unit?_hexUnit {n : Nat} (hn : n < 0x10000) (c : Char) (rest : List Char) :
    unit? (hexUnit n ++ c :: rest) = some n := by
  have hvalue : (n / 4096 % 16 * 16 + n / 256 % 16) * 256 + n / 16 % 16 * 16 + n % 16 = n := by
    omega
  simp only [hexUnit, List.cons_append, List.nil_append, unit?, hexValue?_hexDigit,
    Option.pure_def, Option.bind_eq_bind, Option.bind_some, hvalue]

/-- A unit that is no first half of a pair stands for one character, whatever follows. -/
theorem numericEscape?_hexUnit {n : Nat} (hn : n < 0x10000) (hhigh : isHighHalf n = false)
    (c : Char) (rest : List Char) :
    numericEscape? (hexUnit n ++ c :: rest) = some (charOfUnit n, 4) := by
  unfold numericEscape?
  rw [unit?_hexUnit hn]
  simp only [hhigh, Bool.false_and]
  split
  · split
    · exact if_neg Bool.false_ne_true
    · rfl
  · rfl

/-- Two halves of a pair stand for one character. -/
theorem numericEscape?_pair {high low : Nat} (hhigh : isHighHalf high = true)
    (hlow : isLowHalf low = true) (c : Char) (rest : List Char) :
    numericEscape? (hexUnit high ++ (escapeUnit low ++ c :: rest)) =
      some (Char.ofNat (0x10000 + (high - 0xD800) * 0x400 + (low - 0xDC00)), 10) := by
  have hbounds : high < 0x10000 ∧ low < 0x10000 := by
    simp only [isHighHalf, isLowHalf, Bool.and_eq_true, decide_eq_true_eq] at hhigh hlow
    omega
  have hdrop : (hexUnit high ++ (escapeUnit low ++ c :: rest)).drop 4 =
      '\\' :: 'u' :: (hexUnit low ++ c :: rest) := rfl
  have hfirst : unit? (hexUnit high ++ (escapeUnit low ++ c :: rest)) = some high :=
    unit?_hexUnit hbounds.1 _ _
  unfold numericEscape?
  simp only [hfirst, hdrop, unit?_hexUnit hbounds.2, hhigh, hlow, Bool.and_self, if_true]

/-! ## Characters -/

/-- A character is no half of a pair. -/
theorem isHalf_toNat (c : Char) : isHighHalf c.toNat = false ∧ isLowHalf c.toNat = false := by
  have hvalid : c.toNat < 0xD800 ∨ 0xDFFF < c.toNat ∧ c.toNat < 0x110000 := c.valid
  simp only [isHighHalf, isLowHalf, Bool.and_eq_false_iff, decide_eq_false_iff_not]
  omega

theorem charOfUnit_toNat (c : Char) : charOfUnit c.toNat = c := by
  obtain ⟨hhigh, hlow⟩ := isHalf_toNat c
  simp [charOfUnit, hhigh, hlow]

/-- The ways in which a character is written: with a letter of its own, as it is, or by number. -/
def IsWritten (c : Char) (written : List Char) : Prop :=
  (∃ letter, letter ≠ 'u' ∧ escape? letter = some c ∧ written = ['\\', letter]) ∨
    (c ≠ '"' ∧ c ≠ '\\' ∧ 0x20 ≤ c.toNat ∧ written = [c]) ∨ written = escapeCode c

/-- Each alphabet writes a character in one of these ways. -/
theorem isWritten_encode (a : Alphabet) (c : Char) : IsWritten c (a.encode c) := by
  unfold Alphabet.encode
  split
  · exact .inl ⟨'"', by decide, rfl, rfl⟩
  · exact .inl ⟨'\\', by decide, rfl, rfl⟩
  · exact .inl ⟨'n', by decide, rfl, rfl⟩
  · exact .inl ⟨'r', by decide, rfl, rfl⟩
  · exact .inl ⟨'t', by decide, rfl, rfl⟩
  · exact .inl ⟨'f', by decide, rfl, rfl⟩
  · exact .inl ⟨'b', by decide, rfl, rfl⟩
  · rename_i hquote hslash _ _ _ _ _
    split
    · rename_i hadmits
      have hprinted : 0x20 ≤ c.toNat := by
        cases a <;> simp_all [Alphabet.admits]
      exact .inr (.inl ⟨hquote, hslash, hprinted, rfl⟩)
    · exact .inr (.inr rfl)

/-- What is read for a numeric escape. -/
theorem quotedChar_of_numericEscape? {c : Char} {used : Nat} {r : List Char}
    (h : numericEscape? r = some (c, used)) : quotedChar ('\\' :: 'u' :: r) = .ok (c, used + 1) := by
  rw [quotedChar, h]

/-- A character that is written by number is read from it. -/
theorem exists_quotedChar_escapeCode (c d : Char) (rest : List Char) :
    ∃ written, escapeCode c = '\\' :: written ∧
      quotedChar ('\\' :: written ++ d :: rest) = .ok (c, written.length) := by
  unfold escapeCode
  split <;> rename_i hsmall
  · have hread := numericEscape?_hexUnit hsmall (isHalf_toNat c).1 d rest
    rw [charOfUnit_toNat] at hread
    exact ⟨_, rfl, quotedChar_of_numericEscape? hread⟩
  · have hvalid : c.toNat < 0xD800 ∨ 0xDFFF < c.toNat ∧ c.toNat < 0x110000 := c.valid
    have hhigh : isHighHalf (0xD800 + (c.toNat - 0x10000) / 0x400) = true := by
      simp only [isHighHalf, Bool.and_eq_true, decide_eq_true_eq]
      omega
    have hlow : isLowHalf (0xDC00 + (c.toNat - 0x10000) % 0x400) = true := by
      simp only [isLowHalf, Bool.and_eq_true, decide_eq_true_eq]
      omega
    have hnumber : 0x10000 + (0xD800 + (c.toNat - 0x10000) / 0x400 - 0xD800) * 0x400
        + (0xDC00 + (c.toNat - 0x10000) % 0x400 - 0xDC00) = c.toNat := by
      omega
    have hread := numericEscape?_pair hhigh hlow d rest
    rw [hnumber, Char.ofNat_toNat] at hread
    exact ⟨_, rfl, quotedChar_of_numericEscape? hread⟩

/-! ## Texts -/

/-- Characters that belong to an escape are passed over. -/
theorem quotedFrom_skip (skipped : List Char) (used : Nat) (read rest : List Char) :
    quotedFrom skipped.length used read (skipped ++ rest) =
      quotedFrom 0 (used + skipped.length) read rest := by
  induction skipped generalizing used with
  | nil => rfl
  | cons c skipped ih =>
      rw [List.length_cons, List.cons_append, quotedFrom, ih]
      congr 1
      omega

/-- A character that is read from more than one character is read with all of them. -/
theorem quotedFrom_of_quotedChar {c d : Char} (written : List Char) {rest : List Char}
    (hquote : c ≠ '"')
    (h : quotedChar (c :: written ++ rest) = .ok (d, written.length)) (used : Nat)
    (read : List Char) :
    quotedFrom 0 used read (c :: written ++ rest) =
      quotedFrom 0 (used + (c :: written).length) (d :: read) rest := by
  rw [List.cons_append] at h ⊢
  rw [quotedFrom, if_neg hquote, h]
  simp only
  rw [quotedFrom_skip]
  congr 1
  rw [List.length_cons]
  omega

/-- What is written for a character is read as that character. -/
theorem quotedFrom_written {c : Char} {written : List Char} (h : IsWritten c written) (d : Char)
    (used : Nat) (read rest : List Char) :
    quotedFrom 0 used read (written ++ d :: rest) =
      quotedFrom 0 (used + written.length) (c :: read) (d :: rest) := by
  rcases h with ⟨letter, hu, hescape, rfl⟩ | ⟨hquote, hslash, hprinted, rfl⟩ | rfl
  · refine quotedFrom_of_quotedChar [letter] (by decide) ?_ used read
    simp only [List.cons_append, List.nil_append]
    rw [quotedChar]
    · rw [hescape]
      rfl
    · intro hletter
      exact absurd hletter hu
  · refine quotedFrom_of_quotedChar [] hquote ?_ used read
    simp only [List.cons_append, List.nil_append]
    rw [quotedChar]
    · exact if_neg (Nat.not_lt.mpr hprinted)
    · intro hc
      exact absurd hc hslash
    · intro r hc
      exact absurd hc hslash
    · intro e r hc
      exact absurd hc hslash
  · obtain ⟨written, hwritten, hread⟩ := exists_quotedChar_escapeCode c d rest
    rw [hwritten]
    exact quotedFrom_of_quotedChar written (by decide) hread used read

/-- A quoted text is read up to its closing quote, however its characters are written. -/
theorem quotedFrom_quoted {write : Char → List Char} (hwrite : ∀ c, IsWritten c (write c))
    (cs read rest : List Char) (used : Nat) :
    quotedFrom 0 used read (cs.flatMap write ++ '"' :: rest) =
      .ok (read.reverse ++ cs, used + (cs.flatMap write).length + 1) := by
  induction cs generalizing used read with
  | nil => simp [quotedFrom]
  | cons c cs ih =>
      -- The text goes on behind a character, with the next one or with the closing quote.
      obtain ⟨d, more, hmore⟩ : ∃ d more, cs.flatMap write ++ '"' :: rest = d :: more := by
        cases hcs : cs.flatMap write with
        | nil => exact ⟨_, _, rfl⟩
        | cons d more => exact ⟨_, _, rfl⟩
      rw [List.flatMap_cons, List.append_assoc, hmore, quotedFrom_written (hwrite c), ← hmore, ih]
      simp only [List.reverse_cons, List.append_assoc, List.singleton_append, List.length_append]
      congr 2
      omega

/-- Texts that are quoted alike are equal, however their characters are written. -/
theorem eq_of_quoted_eq {write other : Char → List Char} (hwrite : ∀ c, IsWritten c (write c))
    (hother : ∀ c, IsWritten c (other c)) {cs ds : List Char}
    (heq : cs.flatMap write ++ ['"'] = ds.flatMap other ++ ['"']) : cs = ds := by
  have hread := congrArg (quotedFrom 0 0 []) heq
  rw [quotedFrom_quoted hwrite, quotedFrom_quoted hother, Except.ok.injEq, Prod.mk.injEq] at hread
  exact hread.1

end Json

/-! ## Quotes -/

namespace Text

open Json

/-- Different texts are quoted differently. -/
theorem Alphabet.quote_injective (a : Alphabet) : Function.Injective a.quote := by
  intro s t heq
  have hchars : s.toList.flatMap a.encode ++ ['"'] = t.toList.flatMap a.encode ++ ['"'] := by
    have hlist := congrArg String.toList heq
    simpa [quote, quoteChars] using hlist
  exact String.toList_inj.mp (eq_of_quoted_eq (isWritten_encode a) (isWritten_encode a) hchars)

/-! ## Markup -/

end Text

end ServiceShell
