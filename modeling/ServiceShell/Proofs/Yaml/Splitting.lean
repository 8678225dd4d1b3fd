import ServiceShell.Proofs.Result
import ServiceShell.Yaml.Tokens

/-!
# What can be wrong with the parts of a YAML text

Reading a part of a text fails where it is no YAML.  There is one more way: a character in a quoted
text is written with a number beyond the last character that there is.  To tell this, the places
that are come to are followed through all the readers.

Main results:

- Definition `Yaml.Gives`: what comes of work that can be refused.
- Definition `Yaml.IsOfSplitting`: the refusals that splitting a text gives.
- Theorem `Yaml.holdsEscape_of_peek`: an escape that is read is in the text.
- Theorem `Yaml.reads_quotedText`: what reading a quoted text comes to.
- Theorem `Yaml.reads_blockText`: what reading a block of text comes to.
-/

namespace ServiceShell.Yaml

/-! ## Work that can be refused -/

section

variable {α β : Type} {Q R : α → Prop} {P : Refusal → Prop} {x : Except Refusal α}

/-- Work gives a value of one kind, or a refusal of another. -/
def Gives (Q : α → Prop) (P : Refusal → Prop) : Except Refusal α → Prop
  | .ok a => Q a
  | .error r => P r

theorem Gives.mono (h : Gives R P x) (hvalue : ∀ a, R a → Q a) : Gives Q P x := by
  cases x with
  | ok a => exact hvalue a h
  | error r => exact h

theorem Gives.bind {f : α → Except Refusal β} {S : β → Prop} (h : Gives Q P x)
    (hf : ∀ a, Q a → Gives S P (f a)) : Gives S P (x >>= f) := by
  cases x with
  | ok a => exact hf a h
  | error r => exact h

theorem Gives.map {f : α → β} {S : β → Prop} (h : Gives (fun a => S (f a)) P x) :
    Gives S P (x.map f) := by
  cases x with
  | ok a => exact h
  | error r => exact h

end

/-! ## Places -/

namespace Cursor

variable {cs : List Char} {c : Cursor}

/-- Whether a place is in a text. -/
def IsIn (cs : List Char) (c : Cursor) : Prop := c.rest <:+ cs

theorem IsIn.step (h : c.IsIn cs) : c.step.IsIn cs := by
  refine List.IsSuffix.trans ?_ h
  unfold Cursor.step
  split
  · exact List.suffix_refl _
  · rename_i heq
    rw [heq]
    exact List.suffix_cons _ _
  · rename_i heq
    rw [heq]
    split
    · exact List.suffix_cons _ _
    · split <;> exact List.suffix_cons _ _

theorem IsIn.advance (h : c.IsIn cs) (n : Nat) : (c.advance n).IsIn cs := by
  induction n generalizing c with
  | zero => exact h
  | succ n ih => exact ih h.step

theorem IsIn.skip (h : c.IsIn cs) (wanted : Char → Bool) : (c.skip wanted).IsIn cs := h.advance _

theorem IsIn.skipSpaces (h : c.IsIn cs) : c.skipSpaces.IsIn cs := h.skip _

theorem IsIn.skipComment (h : c.IsIn cs) : c.skipComment.IsIn cs := by
  unfold Cursor.skipComment
  split
  · exact h.skip _
  · exact h

theorem IsIn.lineBreak (h : c.IsIn cs) {char : Char} {after : Cursor}
    (hbreak : c.lineBreak = some (char, after)) : after.IsIn cs := by
  unfold Cursor.lineBreak at hbreak
  split at hbreak
  · cases hbreak
    exact h.advance 2
  · split at hbreak
    · cases hbreak
      exact h.step
    · split at hbreak <;> cases hbreak
      exact h.step
  · cases hbreak

/-- The next character begins what follows, unless the text ends. -/
theorem rest_eq_cons (h : c.peek ≠ ending) : ∃ rest, c.rest = c.peek :: rest := by
  unfold peek at h ⊢
  cases hrest : c.rest with
  | nil => exact absurd (by rw [hrest]; rfl) h
  | cons char rest => exact ⟨rest, rfl⟩

/-- What follows the place after the next character. -/
theorem rest_step {char : Char} {rest : List Char} (h : c.rest = char :: rest)
    (hreturn : char ≠ '\r') : c.step.rest = rest := by
  unfold step
  split <;> rename_i heq <;> rw [heq] at h
  · cases h
  · cases h
    exact absurd rfl hreturn
  · cases h
    split
    · rfl
    · split <;> rfl

end Cursor

/-! ## Refusals -/

/-- Whether a text holds an escape with the number of a character. -/
def HoldsEscape (cs : List Char) (code : Nat) : Prop :=
  ∃ letter length digits, escapeLength? letter = some length ∧
    ('\\' :: letter :: digits) <:+: cs ∧ (digits.filterMap Json.hexValue?).length = length ∧
      code = (digits.filterMap Json.hexValue?).foldl (fun n d => 16 * n + d) 0

/-- The refusals that splitting a text gives: it is no YAML, or it holds an escape with a number
that is not that of a character. -/
def IsOfSplitting (cs : List Char) (r : Refusal) : Prop :=
  (∃ reason, r = .malformed reason) ∨ ∃ code, HoldsEscape cs code ∧ numberedChar code = .error r

theorem isOfSplitting_malformed (cs : List Char) (reason : String) :
    IsOfSplitting cs (.malformed reason) := .inl ⟨reason, rfl⟩

/-- Whether a part of a text is read, up to a place in it. -/
def Reads {α : Type} (cs : List Char) (x : Except Refusal (α × Cursor)) : Prop :=
  Gives (fun a => a.2.IsIn cs) (IsOfSplitting cs) x

section

variable {cs : List Char} {c : Cursor}

theorem reads_malformed {α : Type} (reason : String) :
    Reads cs (.error (.malformed reason) : Except Refusal (α × Cursor)) :=
  isOfSplitting_malformed cs reason

theorem Reads.bind {α β : Type} {x : Except Refusal (α × Cursor)} {Q : β → Prop}
    {f : α × Cursor → Except Refusal β} (h : Reads cs x)
    (hf : ∀ a c, c.IsIn cs → Gives Q (IsOfSplitting cs) (f (a, c))) :
    Gives Q (IsOfSplitting cs) (x >>= f) := Gives.bind h fun a ha => hf a.1 a.2 ha

/-- The end of a line. -/
theorem gives_endOfLine (h : c.IsIn cs) :
    Gives (Cursor.IsIn cs) (IsOfSplitting cs) c.endOfLine := by
  unfold Cursor.endOfLine
  simp only
  split
  · rename_i hbreak
    exact h.skipSpaces.skipComment.lineBreak hbreak
  · split
    · exact h.skipSpaces.skipComment
    · exact isOfSplitting_malformed cs _

/-! ## Names, tags and directives -/

theorem reads_name (h : c.IsIn cs) (mayFollow : Char → Bool) : Reads cs (name mayFollow c) := by
  unfold name
  simp only
  split
  · exact reads_malformed _
  · split
    · exact h.advance _
    · exact reads_malformed _

theorem gives_percentBytes (rest : List Char) :
    Gives (fun _ => True) (IsOfSplitting cs) (percentBytes rest) := by
  fun_induction percentBytes rest with
  | case1 a b rest first second _ _ ih => exact (ih.mono fun _ _ => trivial).map
  | case2 | case3 => exact isOfSplitting_malformed cs _
  | case4 => trivial

theorem reads_tagText (h : c.IsIn cs) (fuel : Nat) (read : String) :
    Reads cs (tagText fuel read c) := by
  induction fuel generalizing read c with
  | zero => exact reads_malformed _
  | succ fuel ih =>
      rw [tagText]
      split
      · have hbytes : Gives (fun _ => True) (IsOfSplitting cs) (percentBytes c.rest) :=
          gives_percentBytes c.rest
        split
        · rename_i hrefused
          rwa [hrefused] at hbytes
        · split
          · exact ih (h.advance _) _
          · exact reads_malformed _
      · split
        · exact ih h.step _
        · split
          · exact reads_malformed _
          · exact h

theorem reads_tagHandle (h : c.IsIn cs) : Reads cs (tagHandle c) := by
  unfold tagHandle
  split
  · exact reads_malformed _
  · split
    · exact h.step
    · simp only
      split
      · exact (h.step.advance _).step
      · exact reads_malformed _

theorem reads_tag (h : c.IsIn cs) : Reads cs (tag c) := by
  have hend : ∀ (a : RawTag) (d : Cursor), d.IsIn cs → Reads cs
      (if isSpaceOrEnd d.peek then (pure (a, d) : Except Refusal _)
        else .error (.malformed "expected ' ' behind a tag")) := by
    intro a d hd
    split
    · exact hd
    · exact reads_malformed _
  unfold tag
  simp only
  split
  · refine (reads_tagText (h.advance 2) _ _).bind fun suffix d hd => ?_
    dsimp only
    split
    · exact hend _ _ hd.step
    · exact isOfSplitting_malformed cs _
  · split
    · exact hend _ _ h.step
    · split
      · refine (reads_tagHandle h).bind fun handle d hd => ?_
        exact (reads_tagText hd _ _).bind fun suffix e he => hend _ _ he
      · exact (reads_tagText h.step _ _).bind fun suffix e he => hend _ _ he

theorem reads_versionNumber (h : c.IsIn cs) : Reads cs (versionNumber c) := by
  unfold versionNumber
  simp only
  split
  · exact reads_malformed _
  · exact h.advance _

theorem reads_versionDirective (h : c.IsIn cs) : Reads cs (versionDirective c) := by
  refine (reads_versionNumber h.skipSpaces).bind fun major d hd => ?_
  dsimp only
  split
  · exact isOfSplitting_malformed cs _
  · refine (reads_versionNumber hd.step).bind fun minor e he => ?_
    dsimp only
    split
    · exact he
    · exact isOfSplitting_malformed cs _

theorem reads_tagDirective (h : c.IsIn cs) : Reads cs (tagDirective c) := by
  refine (reads_tagHandle h.skipSpaces).bind fun handle d hd => ?_
  dsimp only
  split
  · exact isOfSplitting_malformed cs _
  · refine (reads_tagText hd.skipSpaces _ _).bind fun tagPrefix e he => ?_
    dsimp only
    split
    · exact he
    · exact isOfSplitting_malformed cs _

theorem reads_directive (h : c.IsIn cs) : Reads cs (directive c) := by
  have hend : ∀ (a : Directive) (d : Cursor), d.IsIn cs →
      Reads cs (d.endOfLine >>= fun e => pure (a, e)) :=
    fun a d hd => (gives_endOfLine hd).bind fun e he => he
  refine (reads_name h.step _).bind fun word d hd => ?_
  dsimp only
  split
  · exact (reads_versionDirective hd).bind fun a e he => hend a e he
  · split
    · exact (reads_tagDirective hd).bind fun a e he => hend a e he
    · exact hend _ _ (hd.skip _)

/-! ## Quoted texts -/

theorem reads_quotedBreaks (h : c.IsIn cs) (fuel : Nat) (breaks : List Char) :
    Reads cs (quotedBreaks fuel breaks c) := by
  induction fuel generalizing breaks c with
  | zero => exact reads_malformed _
  | succ fuel ih =>
      rw [quotedBreaks]
      split
      · exact reads_malformed _
      · simp only
        split
        · rename_i hbreak
          exact ih ((h.skip _).lineBreak hbreak) _
        · exact h.skip _

/-- Where an escape begins, its letter stands behind the backslash. -/
theorem holdsEscape_of_peek (h : c.IsIn cs) (hpeek : c.peek = '\\') {length : Nat}
    (hlength : escapeLength? c.step.peek = some length)
    (hdigits : ((c.step.step.rest.take length).filterMap Json.hexValue?).length = length) :
    HoldsEscape cs (((c.step.step.rest.take length).filterMap Json.hexValue?).foldl
      (fun n d => 16 * n + d) 0) := by
  have hletter : c.step.peek = 'x' ∨ c.step.peek = 'u' ∨ c.step.peek = 'U' := by
    unfold escapeLength? at hlength
    split at hlength
    case h_1 heq => exact .inl heq
    case h_2 heq => exact .inr (.inl heq)
    case h_3 heq => exact .inr (.inr heq)
    case h_4 => cases hlength
  obtain ⟨rest, hrest⟩ := Cursor.rest_eq_cons (c := c) (by rw [hpeek]; decide)
  rw [hpeek] at hrest
  have hstep : c.step.rest = rest := Cursor.rest_step hrest (by decide)
  obtain ⟨later, hlater⟩ := Cursor.rest_eq_cons (c := c.step)
    (by rcases hletter with heq | heq | heq <;> rw [heq] <;> decide)
  have hnext : c.step.step.rest = later :=
    Cursor.rest_step hlater (by rcases hletter with heq | heq | heq <;> rw [heq] <;> decide)
  refine ⟨c.step.peek, length, c.step.step.rest.take length, hlength, ?_, hdigits, rfl⟩
  have hfront : ('\\' :: c.step.peek :: c.step.step.rest.take length) <+: c.rest := by
    rw [hrest, ← hstep, hlater, hnext]
    exact ⟨later.drop length, by simp⟩
  exact hfront.isInfix.trans (List.IsSuffix.isInfix h)

theorem reads_numberedEscape (h : c.IsIn cs) (hpeek : c.peek = '\\') {length : Nat}
    (hlength : escapeLength? c.step.peek = some length) :
    Reads cs (numberedEscape c.step.step length) := by
  unfold numberedEscape
  simp only
  split
  · rename_i hdigits
    refine Gives.map ?_
    cases hchar : numberedChar _ with
    | ok char => exact h.step.step.advance _
    | error r => exact .inr ⟨_, holdsEscape_of_peek h hpeek hlength hdigits, hchar⟩
  · exact reads_malformed _

/-- A quoted text is read, unless it is none or holds the number of no character. -/
theorem reads_quotedBody (h : c.IsIn cs) (quote : Char) (fuel : Nat) (read : List Char) :
    Reads cs (quotedBody quote fuel read c) := by
  induction fuel generalizing read c with
  | zero => exact reads_malformed _
  | succ fuel ih =>
      rw [quotedBody]
      simp only
      split
      · split
        · exact ih (h.advance 2) _
        · exact h.step
      · split
        · rename_i hescape
          split
          · exact ih h.step.step _
          · rename_i length _ hlength
            have hnumber := reads_numberedEscape h hescape.2 hlength
            split <;> rename_i heq <;> rw [heq] at hnumber
            · exact ih hnumber _
            · exact hnumber
          · rename_i after _ _ hbreak
            have hread := reads_quotedBreaks (h.step.lineBreak hbreak) (after.rest.length + 1) []
            split <;> rename_i heq <;> rw [heq] at hread
            · exact ih hread _
            · exact hread
          · exact reads_malformed _
        · split
          · split
            · rename_i after hbreak
              have hread :=
                reads_quotedBreaks ((h.advance _).lineBreak hbreak) (after.rest.length + 1) []
              split <;> rename_i heq <;> rw [heq] at hread
              · exact ih hread _
              · exact hread
            · split
              · exact reads_malformed _
              · exact ih (h.advance _) _
          · exact ih h.step _

theorem reads_quotedText (h : c.IsIn cs) : Reads cs (quotedText c) := by
  refine Gives.map ((reads_quotedBody h.step _ _ _).mono ?_)
  rintro ⟨read, after⟩ hafter
  exact hafter

/-! ## Blocks -/

theorem gives_indentOfDigit (char : Char) :
    Gives (fun _ => True) (IsOfSplitting cs) (indentOfDigit char) := by
  unfold indentOfDigit
  split
  · exact isOfSplitting_malformed cs _
  · trivial

theorem reads_blockSigns (h : c.IsIn cs) : Reads cs (blockSigns c) := by
  have hend : ∀ (a : Chomping × Option Nat) (d : Cursor), d.IsIn cs → Reads cs
      (if isSpaceOrEnd d.peek then (pure (a, d) : Except Refusal _)
        else .error (.malformed "expected chomping or indentation indicators")) := by
    intro a d hd
    split
    · exact hd
    · exact reads_malformed _
  unfold blockSigns
  simp only
  split
  · refine (gives_indentOfDigit _).bind fun width _ => ?_
    split
    · exact hend _ _ h.step.step
    · exact hend _ _ h.step
  · refine (gives_indentOfDigit _).bind fun width _ => ?_
    split
    · split
      · exact hend _ _ h.step.step
      · exact hend _ _ h.step
    · exact hend _ _ h

theorem isIn_blockIndent (h : c.IsIn cs) (fuel : Nat) (breaks : List Char) (widest : Nat) :
    (blockIndent fuel breaks widest c).2.2.IsIn cs := by
  induction fuel generalizing breaks widest c with
  | zero => exact h
  | succ fuel ih =>
      rw [blockIndent]
      split
      · exact ih h.step _ _
      · split
        · rename_i hbreak
          exact ih (h.lineBreak hbreak) _ _
        · exact h

theorem isIn_blockBreaks (h : c.IsIn cs) (indent fuel : Nat) (breaks : List Char) :
    (blockBreaks indent fuel breaks c).2.IsIn cs := by
  induction fuel generalizing breaks c with
  | zero => exact h
  | succ fuel ih =>
      rw [blockBreaks]
      split
      · rename_i hbreak
        exact ih (Cursor.IsIn.lineBreak (h.advance _) hbreak) _
      · exact h.advance _

theorem isIn_blockLines (h : c.IsIn cs) (folded : Bool) (indent fuel : Nat)
    (read breaks : List Char) : (blockLines folded indent fuel read breaks c).2.2.2.IsIn cs := by
  induction fuel generalizing read breaks c with
  | zero => exact h
  | succ fuel ih =>
      rw [blockLines]
      simp only
      -- The line ends with a line break, or with the text.
      split
      · rename_i hbreak
        have hlater := isIn_blockBreaks (Cursor.IsIn.lineBreak (h.advance _) hbreak) indent
        split
        · split <;> exact ih (hlater _ _) _ _
        · exact hlater _ _
      · have hlater := isIn_blockBreaks (h.skip (!isLineEnd ·)) indent
        split
        · split <;> exact ih (hlater _ _) _ _
        · exact hlater _ _

theorem reads_blockText (h : c.IsIn cs) (outer : Int) : Reads cs (blockText outer c) := by
  refine (reads_blockSigns h.step).bind fun signs d hd => ?_
  refine (gives_endOfLine hd).bind fun e he => ?_
  obtain ⟨chomping, width⟩ := signs
  cases width with
  | none =>
      have hstart := isIn_blockIndent he (e.rest.length + 1) [] 0
      dsimp only
      generalize blockIndent (e.rest.length + 1) [] 0 e = start at hstart ⊢
      change Cursor.IsIn cs (ite _ _ _ : List Char × Option Char × List Char × Cursor).2.2.2
      split
      · exact isIn_blockLines hstart _ _ _ _ _
      · exact hstart
  | some n =>
      have hstart := isIn_blockBreaks he (max 1 (outer + 1).toNat + n - 1) (e.rest.length + 1) []
      dsimp only
      generalize blockBreaks (max 1 (outer + 1).toNat + n - 1) (e.rest.length + 1) [] e = start
        at hstart ⊢
      change Cursor.IsIn cs (ite _ _ _ : List Char × Option Char × List Char × Cursor).2.2.2
      split
      · exact isIn_blockLines hstart _ _ _ _ _
      · exact hstart

/-! ## Plain texts -/

theorem isIn_plainBreaks (h : c.IsIn cs) (fuel : Nat) (breaks : List Char) :
    (plainBreaks fuel breaks c).2.IsIn cs := by
  induction fuel generalizing breaks c with
  | zero => exact h
  | succ fuel ih =>
      rw [plainBreaks]
      split
      · exact ih h.step _
      · split
        · rename_i hbreak
          split
          · exact h.lineBreak hbreak
          · exact ih (h.lineBreak hbreak) _
        · exact h

theorem isIn_plainGap (h : c.IsIn cs) : (plainGap c).cursor.IsIn cs := by
  unfold plainGap
  simp only
  split
  · exact h.advance _
  · rename_i first d hbreak
    have hlater := Cursor.IsIn.lineBreak (h.advance _) hbreak
    split
    · exact hlater
    · have hbreaks := isIn_plainBreaks hlater (d.rest.length + 1) []
      split <;> rename_i heq <;> rw [heq] at hbreaks <;> exact hbreaks

theorem isIn_plainRuns {gap : PlainGap} (h : gap.cursor.IsIn cs) (inFlow : Bool) (indent : Int)
    (fuel : Nat) (read : List Char) :
    (plainRuns inFlow indent fuel read gap).cursor.IsIn cs := by
  induction fuel generalizing read gap with
  | zero => exact h
  | succ fuel ih =>
      rw [plainRuns]
      simp only
      generalize (if gap.cursor.peek = '#' then [] else plainRun inFlow gap.cursor.rest) = run
      split
      · exact h
      · split
        · exact isIn_plainGap (h.advance _)
        · exact ih (isIn_plainGap (h.advance _)) _

end

end ServiceShell.Yaml
