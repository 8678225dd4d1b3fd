import Mathlib.Data.List.TakeWhile
import ServiceShell.Json.Token
import ServiceShell.Proofs.Json.Quoted

/-!
# Splitting JSON text

What the tokens of a text are when the text is put together from parts.  A number or a word goes on
up to the first character that none of them goes on with, and a quoted text up to its closing quote;
so each part of a text is split on its own, as long as what follows cuts it off.

Main results:

- Definition `Json.SplitsInto`: a text is split into tokens, whatever follows and cuts it off.
- Theorem `Json.splitsInto_quote`: a quoted text is one token.
- Theorem `Json.plainToken_append`: what cuts a text off has no effect on the number or the word at
  its start.
- Theorem `Json.splitsInto_plain`: a text that is a number or a word as a whole is one token.
- Theorem `Json.endsPlain_of_plainToken`: no character of a number or a word cuts it off.
- Theorem `Json.plainToken_int`: the text of an integer is its token.
-/

namespace ServiceShell

namespace Json

open Text

/-! ## Tokens without places -/

/-- The tokens of a text, without their places. -/
def kinds (cs : List Char) : List Token := (tokens cs).map Prod.fst

/-- The place of a text has no effect on its tokens. -/
theorem map_fst_tokensFrom (offset other skipped : Nat) (cs : List Char) :
    (tokensFrom offset skipped cs).map Prod.fst = (tokensFrom other skipped cs).map Prod.fst := by
  induction cs generalizing offset other skipped with
  | nil => rfl
  | cons c r ih =>
      cases skipped with
      | succ n => exact ih (offset + 1) (other + 1) n
      | zero =>
          rw [tokensFrom, tokensFrom]
          split
          · exact ih (offset + 1) (other + 1) 0
          · simp only [List.map_cons, ih (offset + 1) (other + 1)]

/-- Characters that belong to a token are passed over. -/
theorem map_fst_tokensFrom_skip (offset : Nat) (skipped rest : List Char) :
    (tokensFrom offset skipped.length (skipped ++ rest)).map Prod.fst = kinds rest := by
  induction skipped generalizing offset with
  | nil => exact map_fst_tokensFrom offset 0 0 rest
  | cons c skipped ih => exact ih (offset + 1)

/-- A space is no token. -/
theorem kinds_space {c : Char} (h : isSpace c = true) (rest : List Char) :
    kinds (c :: rest) = kinds rest := by
  rw [kinds, tokens, tokensFrom, if_pos h]
  exact map_fst_tokensFrom 1 0 0 rest

/-- A token is followed by those of the text behind it. -/
theorem kinds_token {c : Char} {more rest : List Char} {token : Token}
    (hspace : isSpace c = false) (htoken : tokenAt c (more ++ rest) = (token, more.length)) :
    kinds (c :: (more ++ rest)) = token :: kinds rest := by
  rw [kinds, tokens, tokensFrom, if_neg (by simp [hspace]), htoken, List.map_cons,
    map_fst_tokensFrom_skip]

/-! ## Texts that split by themselves -/

/-- Whether no number and no word goes on with a character. -/
def endsPlain (c : Char) : Bool := !(c.isAlphanum || c = '.' || c = '+' || c = '-')

/-- A text that cuts off what stands before it. -/
def CutsOff (rest : List Char) : Prop := ∀ c ∈ rest.head?, endsPlain c = true

@[simp] theorem cutsOff_nil : CutsOff [] := by simp [CutsOff]

@[simp] theorem cutsOff_cons (c : Char) (rest : List Char) :
    CutsOff (c :: rest) ↔ endsPlain c = true := by
  simp [CutsOff]

/-- A text is split into tokens, whatever follows and cuts it off. -/
def SplitsInto (cs : List Char) (ts : List Token) : Prop :=
  ∀ rest, CutsOff rest → kinds (cs ++ rest) = ts ++ kinds rest

theorem splitsInto_nil : SplitsInto [] [] := fun _ _ => rfl

/-- A text behind another one that it cuts off. -/
theorem SplitsInto.append {cs ds : List Char} {ts us : List Token} (hcs : SplitsInto cs ts)
    (hds : SplitsInto ds us) (hcut : ∀ rest, CutsOff rest → CutsOff (ds ++ rest)) :
    SplitsInto (cs ++ ds) (ts ++ us) := by
  intro rest hrest
  rw [List.append_assoc, hcs _ (hcut rest hrest), hds rest hrest, List.append_assoc]

/-- Spaces before a text. -/
theorem SplitsInto.spaces {spaces cs : List Char} {ts : List Token}
    (hspaces : ∀ c ∈ spaces, isSpace c = true) (h : SplitsInto cs ts) :
    SplitsInto (spaces ++ cs) ts := by
  induction spaces with
  | nil => exact h
  | cons c spaces ih =>
      obtain ⟨hc, hrest⟩ := List.forall_mem_cons.mp hspaces
      intro rest hcut
      rw [List.cons_append, List.cons_append, kinds_space hc]
      exact ih hrest rest hcut

/-- A character that is a token by itself, and cuts off what stands before it. -/
structure IsSymbol (c : Char) (token : Token) : Prop where
  /-- It is no space. -/
  notSpace : isSpace c = false
  /-- No number and no word goes on with it. -/
  ends : endsPlain c = true
  /-- It is the token, whatever follows. -/
  isToken : ∀ rest, tokenAt c rest = (token, 0)

theorem isSymbol_openList : IsSymbol '[' .openList := ⟨by decide, by decide, fun _ => rfl⟩
theorem isSymbol_closeList : IsSymbol ']' .closeList := ⟨by decide, by decide, fun _ => rfl⟩
theorem isSymbol_openObject : IsSymbol '\x7b' .openObject := ⟨by decide, by decide, fun _ => rfl⟩
theorem isSymbol_closeObject : IsSymbol '\x7d' .closeObject := ⟨by decide, by decide, fun _ => rfl⟩
theorem isSymbol_comma : IsSymbol ',' .comma := ⟨by decide, by decide, fun _ => rfl⟩
theorem isSymbol_colon : IsSymbol ':' .colon := ⟨by decide, by decide, fun _ => rfl⟩

/-- A symbol before a text. -/
theorem SplitsInto.symbol {c : Char} {token : Token} {cs : List Char} {ts : List Token}
    (hc : IsSymbol c token) (h : SplitsInto cs ts) : SplitsInto (c :: cs) (token :: ts) := by
  intro rest hrest
  rw [List.cons_append, List.cons_append, ← h rest hrest]
  exact kinds_token hc.notSpace (hc.isToken ([] ++ (cs ++ rest)))

/-! ## Quoted texts -/

/-- A quoted text is one token. -/
theorem splitsInto_quote (alphabet : Alphabet) (text : String) :
    SplitsInto (alphabet.quote text).toList [.text text] := by
  intro rest _
  have htoken : tokenAt '"' ((text.toList.flatMap alphabet.encode ++ ['"']) ++ rest) =
      (.text text, (text.toList.flatMap alphabet.encode ++ ['"']).length) := by
    have hread := quotedFrom_quoted (isWritten_encode alphabet) text.toList [] rest 0
    rw [List.append_assoc, List.singleton_append]
    simp only [tokenAt, quotedToken, hread, List.reverse_nil, List.nil_append,
      String.ofList_toList, List.length_append, List.length_singleton, Nat.zero_add]
  rw [Alphabet.quote, String.toList_ofList, Alphabet.quoteChars]
  exact kinds_token (by decide) htoken

/-! ## Numbers and words -/

/-- A row of characters that no number and no word ends in is found at the start of a text already
without what cuts the text off. -/
theorem isPrefixOf_append {word : List Char} (hword : ∀ c ∈ word, endsPlain c = false)
    {cs rest : List Char} (hrest : CutsOff rest) :
    word.isPrefixOf (cs ++ rest) = word.isPrefixOf cs := by
  induction word generalizing cs with
  | nil => simp
  | cons c word ih =>
      obtain ⟨hc, hword⟩ := List.forall_mem_cons.mp hword
      cases cs with
      | cons d cs => simp [List.isPrefixOf, ih hword]
      | nil =>
          cases rest with
          | nil => rfl
          | cons d rest =>
              have hne : (c == d) = false := by
                rw [beq_eq_false_iff_ne]
                rintro rfl
                rw [(cutsOff_cons c rest).mp hrest] at hc
                cases hc
              simp [List.isPrefixOf, hne]

theorem endsPlain_of_mem_words {word : String × Scalar} (h : word ∈ words) :
    ∀ c ∈ word.1.toList, endsPlain c = false := by
  have hall : ((words.map (·.1)).all fun text => text.toList.all fun c => !endsPlain c) = true := by
    decide
  simp only [List.all_eq_true, Bool.not_eq_true'] at hall
  exact hall _ (List.mem_map_of_mem h)

theorem word?_append (cs : List Char) {rest : List Char} (hrest : CutsOff rest) :
    word? (cs ++ rest) = word? cs := by
  have hfind : ∀ ws ⊆ words, (ws.find? fun w => w.1.toList.isPrefixOf (cs ++ rest)) =
      ws.find? fun w => w.1.toList.isPrefixOf cs := by
    intro ws hws
    induction ws with
    | nil => rfl
    | cons w ws ih =>
        obtain ⟨hw, hws⟩ := List.cons_subset.mp hws
        rw [List.find?_cons, List.find?_cons, ih hws,
          isPrefixOf_append (endsPlain_of_mem_words hw) hrest]
  rw [word?, word?, hfind words (List.Subset.refl _)]

/-- What cuts a text off adds no digit. -/
theorem leadingDigits_append (cs : List Char) {rest : List Char} (hrest : CutsOff rest) :
    leadingDigits (cs ++ rest) = leadingDigits cs := by
  have hnone : leadingDigits rest = [] := by
    cases rest with
    | nil => rfl
    | cons c rest =>
        have hc : c.isDigit = false := by
          have hends := (cutsOff_cons c rest).mp hrest
          simp only [endsPlain, Char.isAlphanum, Bool.not_or, Bool.and_eq_true,
            Bool.not_eq_true'] at hends
          exact hends.1.1.1.2
        exact List.takeWhile_cons_of_neg (by simp [hc])
  induction cs with
  | nil => exact hnone
  | cons c cs ih =>
      simp only [leadingDigits, List.cons_append, List.takeWhile_cons] at ih ⊢
      rw [ih]

theorem wholeDigits_append (cs : List Char) {rest : List Char} (hrest : CutsOff rest) :
    wholeDigits (cs ++ rest) = wholeDigits cs := by
  cases cs with
  | cons c cs =>
      by_cases hc : c = '0'
      · subst hc
        rfl
      · have hwhole : ∀ r, wholeDigits (c :: r) = leadingDigits (c :: r) := by
          intro r
          unfold wholeDigits
          split
          · rename_i heq
            exact absurd (List.cons.inj heq).1 hc
          · rfl
        rw [List.cons_append, hwhole, hwhole, ← List.cons_append, leadingDigits_append _ hrest]
  | nil =>
      cases rest with
      | nil => rfl
      | cons c rest =>
          have hends := (cutsOff_cons c rest).mp hrest
          have hwhole : wholeDigits (c :: rest) = leadingDigits (c :: rest) := by
            unfold wholeDigits
            split
            · rename_i heq
              rw [(List.cons.inj heq).1] at hends
              exact absurd hends (by decide)
            · rfl
          exact hwhole.trans (leadingDigits_append [] hrest)

theorem fractionDigits_append (cs : List Char) {rest : List Char} (hrest : CutsOff rest) :
    fractionDigits (cs ++ rest) = fractionDigits cs := by
  have hpoint : ∀ c r, c ≠ '.' → fractionDigits (c :: r) = [] := by
    intro c r hc
    unfold fractionDigits
    split
    · rename_i heq
      exact absurd (List.cons.inj heq).1 hc
    · rfl
  cases cs with
  | cons c cs =>
      by_cases hc : c = '.'
      · subst hc
        exact leadingDigits_append cs hrest
      · rw [List.cons_append, hpoint _ _ hc, hpoint _ _ hc]
  | nil =>
      cases rest with
      | nil => rfl
      | cons c rest =>
          refine hpoint c rest ?_
          rintro rfl
          exact absurd ((cutsOff_cons _ _).mp hrest) (by decide)

theorem exponentPart_append (cs : List Char) {rest : List Char} (hrest : CutsOff rest) :
    exponentPart (cs ++ rest) = exponentPart cs := by
  -- What cuts a text off begins neither with the letter of an exponent nor with a sign.
  have hhead : ∀ c, endsPlain c = false → rest.head? ≠ some c := by
    intro c hc heq
    rw [hrest c heq] at hc
    cases hc
  cases cs with
  | nil =>
      cases rest with
      | nil => rfl
      | cons c rest =>
          have hc : ¬ (c = 'e' ∨ c = 'E') := by
            rintro (rfl | rfl)
            · exact hhead 'e' (by decide) rfl
            · exact hhead 'E' (by decide) rfl
          simp only [List.nil_append, exponentPart, if_neg hc]
  | cons c cs =>
      have hsign : ∀ sign, endsPlain sign = false →
          ((cs ++ rest).head? = some sign ↔ cs.head? = some sign) := by
        intro sign hsign
        cases cs with
        | nil => simpa using hhead sign hsign
        | cons d cs => simp
      have hminus := hsign '-' (by decide)
      have hplus := hsign '+' (by decide)
      have hdrop : ∀ n ≤ cs.length, leadingDigits ((cs ++ rest).drop n) =
          leadingDigits (cs.drop n) := by
        intro n hn
        rw [List.drop_append_of_le_length hn, leadingDigits_append _ hrest]
      have hlength : (if cs.head? = some '-' ∨ cs.head? = some '+' then 1 else 0) ≤ cs.length := by
        cases cs with
        | nil => simp
        | cons d cs =>
            rw [List.length_cons]
            split <;> omega
      simp only [List.cons_append, exponentPart, hminus, hplus, hdrop _ hlength]

/-- The digits of a whole number stand at the start of the text. -/
theorem length_wholeDigits_le (cs : List Char) : (wholeDigits cs).length ≤ cs.length := by
  unfold wholeDigits
  split
  · simp
  · exact (List.takeWhile_prefix _).length_le

theorem length_fractionDigits_le (cs : List Char) :
    (if (fractionDigits cs).isEmpty then 0 else (fractionDigits cs).length + 1) ≤ cs.length := by
  split
  · exact Nat.zero_le _
  · rename_i hempty
    unfold fractionDigits at hempty ⊢
    split
    · exact Nat.succ_le_succ (List.takeWhile_prefix _).length_le
    · simp at hempty

theorem length_exponentPart_le (cs : List Char) : (exponentPart cs).2 ≤ cs.length := by
  cases cs with
  | nil => simp [exponentPart]
  | cons e r =>
      simp only [exponentPart]
      generalize (if r.head? = some '-' ∨ r.head? = some '+' then 1 else 0) = signLength
      split
      · split <;> rename_i hdigits
        · exact Nat.zero_le _
        · have hle : (leadingDigits (r.drop signLength)).length ≤ r.length - signLength := by
            rw [← List.length_drop]
            exact (List.takeWhile_prefix _).length_le
          have hpos : 0 < (leadingDigits (r.drop signLength)).length := by
            rw [List.length_pos_iff]
            simpa using hdigits
          simp only [List.length_cons]
          omega
      · exact Nat.zero_le _

/-- What cuts a text off has no effect on the number at its start. -/
theorem unsignedToken?_append (negative : Bool) (cs : List Char) {rest : List Char}
    (hrest : CutsOff rest) :
    unsignedToken? negative (cs ++ rest) = unsignedToken? negative cs := by
  have hwhole := length_wholeDigits_le cs
  have hfraction := length_fractionDigits_le (cs.drop (wholeDigits cs).length)
  rw [unsignedToken?, unsignedToken?]
  simp only [wholeDigits_append cs hrest, List.drop_append_of_le_length hwhole,
    fractionDigits_append _ hrest, List.drop_append_of_le_length hfraction,
    exponentPart_append _ hrest]

/-- A text that begins with a minus sign is a word or a negative number. -/
theorem plainToken_minus (r : List Char) :
    plainToken ('-' :: r) = (word? ('-' :: r)).getD
      (((unsignedToken? true r).map fun t => (t.1, t.2 + 1)).getD (.unknown, 1)) := by
  unfold plainToken
  cases word? ('-' :: r) <;> rfl

/-- A text that begins with anything else is a word or a number without a sign. -/
theorem plainToken_of_ne {c : Char} (hc : c ≠ '-') (r : List Char) :
    plainToken (c :: r) =
      (word? (c :: r)).getD ((unsignedToken? false (c :: r)).getD (.unknown, 1)) := by
  unfold plainToken
  cases word? (c :: r) with
  | some found => rfl
  | none =>
      simp only [Option.getD_none]
      congr 1
      split
      · rename_i heq
        exact absurd (List.cons.inj heq).1 hc
      · rfl

/-- What cuts a text off has no effect on the number or the word at its start. -/
theorem plainToken_append {cs rest : List Char} (hcs : cs ≠ []) (hrest : CutsOff rest) :
    plainToken (cs ++ rest) = plainToken cs := by
  obtain ⟨c, r, rfl⟩ := List.exists_cons_of_ne_nil hcs
  have hword := word?_append (c :: r) hrest
  rw [List.cons_append] at hword ⊢
  by_cases hc : c = '-'
  · subst hc
    rw [plainToken_minus, plainToken_minus, hword, unsignedToken?_append true r hrest]
  · rw [plainToken_of_ne hc, plainToken_of_ne hc, hword, ← List.cons_append,
      unsignedToken?_append false _ hrest]

/-- The words begin with letters, but for one that begins with a sign and a letter. -/
theorem head_of_mem_words {word : String × Scalar} (h : word ∈ words) :
    ∃ first more, word.1.toList = first :: more ∧
      (first.isAlpha = true ∨ first = '-' ∧ more.head? = some 'I') := by
  have hall : ∀ text ∈ words.map (fun w => w.1.toList),
      text ≠ [] ∧ (text.head?.all Char.isAlpha = true ∨ text.take 2 = ['-', 'I']) := by decide
  obtain ⟨hne, hstart⟩ := hall _ (List.mem_map_of_mem (f := fun w => w.1.toList) h)
  obtain ⟨first, more, htext⟩ := List.exists_cons_of_ne_nil hne
  refine ⟨first, more, htext, ?_⟩
  rw [htext] at hstart
  refine hstart.imp id fun htake => ?_
  cases more with
  | nil => cases htake
  | cons second more =>
      cases htake
      exact ⟨rfl, rfl⟩

theorem isAlpha_eq_false_of_isDigit {c : Char} (h : c.isDigit = true) : c.isAlpha = false := by
  have hdigit : 48 ≤ c.toNat ∧ c.toNat ≤ 57 := by
    simpa [Char.isDigit, UInt32.le_iff_toNat_le] using h
  rw [← Bool.not_eq_true]
  intro halpha
  have hbounds : 65 ≤ c.toNat ∧ c.toNat ≤ 90 ∨ 97 ≤ c.toNat ∧ c.toNat ≤ 122 := by
    delta Char.isAlpha Char.isUpper Char.isLower at halpha
    simpa [UInt32.le_iff_toNat_le] using halpha
  omega

/-- A text that begins with a character that no word begins with is no word. -/
theorem word?_eq_none {c : Char} {r : List Char} (halpha : c.isAlpha = false)
    (hsign : c = '-' → r.head? ≠ some 'I') : word? (c :: r) = none := by
  rw [word?, Option.map_eq_none_iff, List.find?_eq_none]
  intro w hw hstarts
  obtain ⟨first, more, htext, hfirst⟩ := head_of_mem_words hw
  rw [htext, List.isPrefixOf_cons_cons, Bool.and_eq_true, beq_iff_eq] at hstarts
  obtain ⟨rfl, hmore⟩ := hstarts
  rcases hfirst with hletter | ⟨rfl, hhead⟩
  · rw [hletter] at halpha
    cases halpha
  · refine hsign rfl ?_
    obtain ⟨rest, rfl⟩ := List.isPrefixOf_iff_prefix.mp hmore
    rw [List.head?_append, hhead]
    rfl

/-- A text that begins with neither a letter, nor a digit, nor a sign is no number and no word. -/
theorem plainToken_of_not_isAlphanum {c : Char} (hc : c.isAlphanum = false) (hsign : c ≠ '-')
    (r : List Char) : plainToken (c :: r) = (.unknown, 1) := by
  simp only [Char.isAlphanum, Bool.or_eq_false_iff] at hc
  have hword : word? (c :: r) = none := word?_eq_none hc.1 fun h => absurd h hsign
  have hwhole : wholeDigits (c :: r) = [] := by
    unfold wholeDigits
    split
    · rename_i heq
      rw [(List.cons.inj heq).1] at hc
      exact absurd hc.2 (by decide)
    · exact List.takeWhile_cons_of_neg (by simp [hc.2])
  rw [plainToken_of_ne hsign, hword, unsignedToken?, hwhole]
  rfl

/-- The number at the start of a text stands in the text. -/
theorem length_unsignedToken?_le {negative : Bool} {cs : List Char} {found : Token × Nat}
    (h : unsignedToken? negative cs = some found) : found.2 ≤ cs.length := by
  have hwhole := length_wholeDigits_le cs
  have hfraction := length_fractionDigits_le (cs.drop (wholeDigits cs).length)
  unfold unsignedToken? at h
  simp only at h
  generalize (if (fractionDigits (cs.drop (wholeDigits cs).length)).isEmpty then 0
    else (fractionDigits (cs.drop (wholeDigits cs).length)).length + 1) = used at h hfraction
  have hexponent := length_exponentPart_le ((cs.drop (wholeDigits cs).length).drop used)
  simp only [List.length_drop] at hfraction hexponent
  have hlength : found.2 = (wholeDigits cs).length + used +
      (exponentPart ((cs.drop (wholeDigits cs).length).drop used)).2 := by
    split at h
    · cases h
    · split at h
      · split at h <;> (cases h; rfl)
      · cases h
        rfl
  omega

/-- The number or the word at the start of a text stands in the text. -/
theorem length_plainToken_le {cs : List Char} (hcs : cs ≠ []) : (plainToken cs).2 ≤ cs.length := by
  have hword : ∀ found, word? cs = some found → found.2 ≤ cs.length := by
    intro found hfound
    obtain ⟨w, hw, rfl⟩ := Option.map_eq_some_iff.mp hfound
    have hstarts : w.1.toList.isPrefixOf cs = true := by simpa using List.find?_some hw
    exact String.length_toList ▸ (List.isPrefixOf_iff_prefix.mp hstarts).length_le
  obtain ⟨c, r, rfl⟩ := List.exists_cons_of_ne_nil hcs
  by_cases hc : c = '-'
  · subst hc
    rw [plainToken_minus]
    cases hfound : word? ('-' :: r) with
    | some found => exact hword found hfound
    | none =>
        cases hnumber : unsignedToken? true r with
        | none => simp
        | some found => simpa using length_unsignedToken?_le hnumber
  · rw [plainToken_of_ne hc]
    cases hfound : word? (c :: r) with
    | some found => exact hword found hfound
    | none =>
        cases hnumber : unsignedToken? false (c :: r) with
        | none => simp
        | some found => exact length_unsignedToken?_le hnumber

/-- No character of a number or a word cuts it off. -/
theorem endsPlain_of_plainToken {cs : List Char} {s : Scalar}
    (h : plainToken cs = (.scalar s, cs.length)) : ∀ c ∈ cs, endsPlain c = false := by
  intro c hc
  rw [← Bool.not_eq_true]
  intro hends
  obtain ⟨before, behind, rfl⟩ := List.append_of_mem hc
  have hcut : CutsOff (c :: behind) := (cutsOff_cons c behind).mpr hends
  cases before with
  | nil =>
      simp only [endsPlain, Bool.not_or, Bool.and_eq_true, Bool.not_eq_true',
        decide_eq_false_iff_not] at hends
      rw [List.nil_append, plainToken_of_not_isAlphanum hends.1.1.1 hends.2] at h
      cases h
  | cons d before =>
      rw [plainToken_append (List.cons_ne_nil d before) hcut] at h
      have hle := length_plainToken_le (List.cons_ne_nil d before)
      rw [h, List.length_append, List.length_cons (a := c)] at hle
      omega

/-- A text that is a number or a word as a whole is one token. -/
theorem splitsInto_plain {cs : List Char} {s : Scalar}
    (h : plainToken cs = (.scalar s, cs.length)) : SplitsInto cs [.scalar s] := by
  cases cs with
  | nil => cases h
  | cons c r =>
      have hc : c.isAlphanum = true ∨ c = '-' := by
        by_contra hneither
        rw [not_or, Bool.not_eq_true] at hneither
        rw [plainToken_of_not_isAlphanum hneither.1 hneither.2] at h
        cases h
      intro rest hrest
      have hplain := (plainToken_append (List.cons_ne_nil c r) hrest).trans h
      refine kinds_token ?_ ?_
      · by_contra hspace
        simp only [isSpace, Bool.not_eq_false, Bool.or_eq_true, decide_eq_true_eq] at hspace
        rcases hspace with ((rfl | rfl) | rfl) | rfl <;> exact absurd hc (by decide)
      · unfold tokenAt
        split
        all_goals first | exact absurd hc (by decide) | skip
        rw [← List.cons_append, hplain]
        rfl

/-! ## Integers -/

/-- The digits of a number have its value. -/
theorem digitsValue_toDigits (n : Nat) : digitsValue (Nat.toDigits 10 n) = n := by
  rw [digitsValue, ← Nat.ofDigitChars_eq_foldl]
  exact Nat.ofDigitChars_ten_toDigits

/-- The first digit of a number is no zero, unless the number is. -/
theorem head?_toDigits_ne {n : Nat} (hn : 0 < n) : (Nat.toDigits 10 n).head? ≠ some '0' := by
  induction n using Nat.strongRecOn with
  | ind n ih =>
      by_cases hlt : n < 10
      · rw [Nat.toDigits_of_lt_base hlt]
        have hdigits : ∀ k < 10, 0 < k → [k.digitChar].head? ≠ some '0' := by decide
        exact hdigits n hlt hn
      · rw [Nat.toDigits_of_base_le (by decide) (by omega),
          List.head?_append_of_ne_nil _ Nat.toDigits_ne_nil]
        exact ih (n / 10) (by omega) (by omega)

theorem wholeDigits_toDigits (n : Nat) : wholeDigits (Nat.toDigits 10 n) = Nat.toDigits 10 n := by
  by_cases hn : n = 0
  · subst hn
    rfl
  · have hhead := head?_toDigits_ne (Nat.pos_of_ne_zero hn)
    unfold wholeDigits
    split
    · rename_i heq
      rw [heq] at hhead
      exact absurd rfl hhead
    · exact List.takeWhile_eq_self_iff.mpr fun c hc =>
        Nat.isDigit_of_mem_toDigits (by decide) (by decide) hc

/-- The digits of a number are read as that number, if there are not too many of them. -/
theorem unsignedToken?_toDigits (negative : Bool) {n : Nat}
    (h : (Nat.toDigits 10 n).length ≤ digitLimit) :
    unsignedToken? negative (Nat.toDigits 10 n) =
      some (.scalar (.number (.int (Decimal.signed negative n))), (Nat.toDigits 10 n).length) := by
  have hne : (Nat.toDigits 10 n).isEmpty = false := by
    rw [List.isEmpty_eq_false_iff]
    exact Nat.toDigits_ne_nil
  simp [unsignedToken?, wholeDigits_toDigits, hne, List.drop_length, fractionDigits, exponentPart,
    digitsValue_toDigits, Nat.not_lt.mpr h]

/-- The text of an integer is its token, if it has not too many digits. -/
theorem plainToken_int {n : Int} (h : (Nat.toDigits 10 n.natAbs).length ≤ digitLimit) :
    plainToken (toString n).toList = (.scalar (.number (.int n)), (toString n).toList.length) := by
  obtain ⟨c, r, hdigits⟩ := List.exists_cons_of_ne_nil
    (Nat.toDigits_ne_nil (n := n.natAbs) (b := 10))
  have hc : c.isDigit = true :=
    Nat.isDigit_of_mem_toDigits (by decide) (by decide) (hdigits ▸ List.mem_cons_self)
  have hread := fun negative => unsignedToken?_toDigits negative h
  rw [hdigits] at hread
  cases n with
  | ofNat m =>
      have htext : (toString (Int.ofNat m)).toList = c :: r := by
        rw [← hdigits]
        exact Nat.toList_repr
      have hsign : c ≠ '-' := by
        rintro rfl
        exact absurd hc (by decide)
      rw [htext, plainToken_of_ne hsign, word?_eq_none (isAlpha_eq_false_of_isDigit hc)
        (fun h => absurd h hsign), hread]
      rfl
  | negSucc m =>
      have htext : (toString (Int.negSucc m)).toList = '-' :: c :: r := by
        rw [← hdigits]
        show ("-" ++ (m + 1).repr).toList = _
        rw [String.toList_append, Nat.toList_repr]
        rfl
      have hletter : (c :: r).head? ≠ some 'I' := by
        rintro heq
        cases heq
        exact absurd hc (by decide)
      rw [htext, plainToken_minus, word?_eq_none (by decide) (fun _ => hletter), hread]
      rfl

end Json

end ServiceShell
