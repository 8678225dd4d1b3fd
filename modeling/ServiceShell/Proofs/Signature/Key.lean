import ServiceShell.Proofs.Json.Quoted
import ServiceShell.Signature.Rendering

/-!
# Keys of records

The name of a member stands without quotes in a record when it is a word.  A word with a newline
behind it counts as one too, so that the newline goes into the record; every other name is quoted.

Main results:

- Theorem `Signature.isBareKey_iff`: which names stand without quotes.
- Theorem `Signature.isBrokenWord_iff`: which of them hold a newline.
- Theorem `Signature.recordKey_injective`: different members have different keys.
-/

namespace ServiceShell

namespace Signature

/-! ## Keys without quotes -/

/-- Whether a text is a word that can be a key: `[A-Za-z_][A-Za-z0-9_]*`. -/
def IsKeyWord (cs : List Char) : Prop :=
  ∃ c rest, cs = c :: rest ∧ isKeyStart c = true ∧ ∀ d ∈ rest, isKeyChar d = true

/-- Whether a name is a word with a newline behind it. -/
def IsBrokenWord (name : String) : Prop :=
  ∃ word, IsKeyWord word ∧ name.toList = word ++ ['\n']

/-- What can stand behind the first character of a key without quotes. -/
theorem isBareTail_iff {cs : List Char} :
    isBareTail cs = true ↔ (∀ d ∈ cs, isKeyChar d = true) ∨
      ∃ word, (∀ d ∈ word, isKeyChar d = true) ∧ cs = word ++ ['\n'] := by
  fun_induction isBareTail cs with
  | case1 => exact iff_of_true rfl (.inl (List.forall_mem_nil _))
  | case2 => exact iff_of_true rfl (.inr ⟨[], List.forall_mem_nil _, rfl⟩)
  | case3 c rest hbreak ih =>
      rw [Bool.and_eq_true, ih]
      constructor
      · rintro ⟨hc, hrest | ⟨word, hword, rfl⟩⟩
        · exact .inl (List.forall_mem_cons.mpr ⟨hc, hrest⟩)
        · exact .inr ⟨c :: word, List.forall_mem_cons.mpr ⟨hc, hword⟩, rfl⟩
      · rintro (hall | ⟨word, hword, heq⟩)
        · rw [List.forall_mem_cons] at hall
          exact ⟨hall.1, .inl hall.2⟩
        · cases word with
          | nil =>
              cases heq
              exact absurd rfl (hbreak rfl)
          | cons d word =>
              cases heq
              rw [List.forall_mem_cons] at hword
              exact ⟨hword.1, .inr ⟨word, hword.2, rfl⟩⟩

/-- A name stands without quotes exactly when it is a word, or a word with a newline behind it. -/
theorem isBareKey_iff {name : String} :
    isBareKey name.toList = true ↔ IsKeyWord name.toList ∨ IsBrokenWord name := by
  unfold IsBrokenWord
  generalize name.toList = cs
  constructor
  · intro h
    cases cs with
    | nil => cases h
    | cons c rest =>
        rw [isBareKey, Bool.and_eq_true, isBareTail_iff] at h
        obtain ⟨hstart, hrest | ⟨word, hword, rfl⟩⟩ := h
        · exact .inl ⟨c, rest, rfl, hstart, hrest⟩
        · exact .inr ⟨c :: word, ⟨c, word, rfl, hstart, hword⟩, rfl⟩
  · rintro (⟨c, rest, rfl, hstart, hrest⟩ | ⟨_, ⟨c, word, rfl, hstart, hword⟩, rfl⟩)
    · rw [isBareKey, Bool.and_eq_true, isBareTail_iff]
      exact ⟨hstart, .inl hrest⟩
    · rw [List.cons_append, isBareKey, Bool.and_eq_true, isBareTail_iff]
      exact ⟨hstart, .inr ⟨word, hword, rfl⟩⟩

/-- A word with a newline behind it is a name without quotes that holds a newline. -/
theorem isBrokenWord_iff {name : String} :
    IsBrokenWord name ↔ isBareKey name.toList = true ∧ '\n' ∈ name.toList := by
  constructor
  · intro h
    refine ⟨isBareKey_iff.mpr (.inr h), ?_⟩
    obtain ⟨word, -, heq⟩ := h
    rw [heq]
    exact List.mem_append_right _ (List.mem_singleton_self _)
  · rintro ⟨hbare, hnewline⟩
    refine (isBareKey_iff.mp hbare).resolve_left ?_
    rintro ⟨c, rest, heq, hstart, hrest⟩
    rw [heq] at hnewline
    rcases List.mem_cons.mp hnewline with rfl | hmem
    · exact absurd hstart (by decide)
    · exact absurd (hrest _ hmem) (by decide)

instance (name : String) : Decidable (IsBrokenWord name) :=
  decidable_of_iff _ isBrokenWord_iff.symm

/-! ## Different keys -/

/-- What is quoted is no key without quotes. -/
theorem isBareKey_quote (text : String) : isBareKey (quote text).toList = false := by
  simp [quote, Text.Alphabet.quote, Text.Alphabet.quoteChars, isBareKey,
    (by decide : isKeyStart '"' = false)]

/-- Different members have different keys. -/
theorem recordKey_injective : Function.Injective recordKey := by
  intro s t heq
  unfold recordKey at heq
  split at heq <;> rename_i hs <;> split at heq <;> rename_i ht
  · exact heq
  · rw [heq, isBareKey_quote] at hs
    exact absurd hs Bool.false_ne_true
  · rw [← heq, isBareKey_quote] at ht
    exact absurd ht Bool.false_ne_true
  · exact Text.Alphabet.quote_injective .ascii heq

end Signature

end ServiceShell
