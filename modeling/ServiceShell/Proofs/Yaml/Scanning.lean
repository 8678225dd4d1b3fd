import ServiceShell.Proofs.Yaml.Splitting

/-!
# The places that a scan comes to

Each step of a scan takes a token and goes on behind it, so the scan is always at a place in the
text.  A step that is refused is refused for what stands at its place.

Main results:

- Theorem `Yaml.Scan.stays_next`: what one step comes to.
- Theorem `Yaml.Scan.isOfSplitting_of_run`: what a scan comes to.
- Theorem `Yaml.isOfSplitting_of_tokens`: the refusal behind the tokens of a text.
-/

namespace ServiceShell.Yaml

namespace Scan

variable {cs : List Char} {s : Scan}

/-! ## Steps that stay -/

@[simp] theorem cursor_unwindFrom (column : Int) (outer : List Int) (s : Scan) :
    (unwindFrom column outer s).cursor = s.cursor := by
  induction outer generalizing s with
  | nil => rfl
  | cons indent outer ih =>
      rw [unwindFrom]
      split
      · exact ih _
      · rfl

@[simp] theorem cursor_unwind (s : Scan) (column : Int) : (s.unwind column).cursor = s.cursor := by
  unfold unwind
  split
  · exact cursor_unwindFrom _ _ _
  · rfl

@[simp] theorem cursor_beginBlock (s : Scan) (token : Token) :
    (s.beginBlock token).cursor = s.cursor := by
  unfold beginBlock
  split <;> rfl

@[simp] theorem cursor_closeKey (s : Scan) (start : KeyStart) :
    (s.closeKey start).cursor = s.cursor := by
  unfold closeKey
  simp only
  split <;> rfl

/-! ## Steps that can be refused -/

/-- Whether a step goes on in a text, or is refused for what is in it. -/
def Stays (cs : List Char) (x : Except Refusal Scan) : Prop :=
  Gives (fun s => s.cursor.IsIn cs) (IsOfSplitting cs) x

theorem stays_malformed (cs : List Char) (reason : String) :
    Stays cs (.error (.malformed reason)) := isOfSplitting_malformed cs reason

/-- Places where keys may have begun are forgotten. -/
theorem stays_dropStale (h : s.cursor.IsIn cs) : Stays cs s.dropStale := by
  unfold dropStale
  split
  · exact stays_malformed cs _
  · exact h

theorem stays_dropStart (h : s.cursor.IsIn cs) : Stays cs s.dropStart := by
  unfold dropStart
  split
  · exact stays_malformed cs _
  · exact h

theorem stays_saveStart (h : s.cursor.IsIn cs) : Stays cs s.saveStart := by
  unfold saveStart
  split
  · exact (stays_dropStart h).bind fun t ht => ht
  · exact h

theorem stays_streamEnd (h : s.cursor.IsIn cs) : Stays cs s.streamEnd :=
  Gives.bind (stays_dropStart (by rwa [cursor_unwind])) fun _ ht => ht

theorem stays_directive (h : s.cursor.IsIn cs) : Stays cs s.directive := by
  refine Gives.bind (stays_dropStart (by rwa [cursor_unwind])) fun t ht => ?_
  exact (reads_directive ht).bind fun _ _ hc => hc

theorem stays_separator (h : s.cursor.IsIn cs) (token : Token) : Stays cs (s.separator token) :=
  Gives.bind (stays_dropStart (by rwa [cursor_unwind])) fun _ ht => ht.advance 3

theorem stays_flowStart (h : s.cursor.IsIn cs) (token : Token) : Stays cs (s.flowStart token) :=
  (stays_saveStart h).bind fun _ ht => ht.step

theorem stays_flowEnd (h : s.cursor.IsIn cs) (token : Token) : Stays cs (s.flowEnd token) :=
  (stays_dropStart h).bind fun _ ht => ht.step

theorem stays_flowEntry (h : s.cursor.IsIn cs) : Stays cs s.flowEntry :=
  Gives.bind (stays_dropStart h) fun _ ht => ht.step

theorem stays_blockEntry (h : s.cursor.IsIn cs) : Stays cs s.blockEntry := by
  unfold blockEntry
  split
  · exact stays_malformed cs _
  · exact Gives.bind (stays_dropStart (by simpa using h)) fun _ ht => ht.step

theorem stays_keyMark (h : s.cursor.IsIn cs) : Stays cs s.keyMark := by
  unfold keyMark
  split
  · exact stays_malformed cs _
  · exact Gives.bind (stays_dropStart (by simpa using h)) fun _ ht => ht.step

theorem stays_valueMark (h : s.cursor.IsIn cs) : Stays cs s.valueMark := by
  unfold valueMark
  split
  · exact Cursor.IsIn.step (by rwa [cursor_closeKey])
  · split
    · exact stays_malformed cs _
    · exact Gives.bind (stays_dropStart (by simpa using h)) fun _ ht => ht.step

/-- A token that may begin a key. -/
theorem stays_keyLike {α : Type} {read : Cursor → Except Refusal (α × Cursor)}
    (hread : ∀ c : Cursor, c.IsIn cs → Reads cs (read c)) (h : s.cursor.IsIn cs)
    (token : α → Token) : Stays cs (s.keyLike read token) := by
  refine (stays_saveStart h).bind fun t ht => ?_
  exact (hread _ ht).bind fun _ _ hc => hc

theorem stays_block (h : s.cursor.IsIn cs) : Stays cs s.block := by
  refine Gives.bind (stays_dropStart h) fun t ht => ?_
  exact (reads_blockText ht _).bind fun _ _ hc => hc

theorem stays_plain (h : s.cursor.IsIn cs) : Stays cs s.plain :=
  (stays_saveStart h).bind fun _ ht => isIn_plainRuns ht _ _ _ _

theorem isIn_skipBlanks (h : s.cursor.IsIn cs) (fuel : Nat) :
    (skipBlanks fuel s).cursor.IsIn cs := by
  induction fuel generalizing s with
  | zero => exact h
  | succ fuel ih =>
      rw [skipBlanks]
      split
      · rename_i hbreak
        exact ih (h.skipSpaces.skipComment.lineBreak hbreak)
      · exact h.skipSpaces.skipComment

/-! ## Scans -/

/-- One token is taken, or refused for what is in the text. -/
theorem stays_next (h : s.cursor.IsIn cs) : Stays cs s.next := by
  have hunexpected : Stays cs next.unexpected := stays_malformed cs _
  unfold next
  simp only
  split
  · split
    · exact stays_directive h
    · exact hunexpected
  · exact stays_flowStart h _
  · exact stays_flowStart h _
  · exact stays_flowEnd h _
  · exact stays_flowEnd h _
  · exact stays_flowEntry h
  · exact stays_keyLike (fun c hc => reads_name hc.step _) h _
  · exact stays_keyLike (fun c hc => reads_name hc.step _) h _
  · exact stays_keyLike (fun c hc => reads_tag hc) h _
  · exact stays_keyLike (fun c hc => reads_quotedText hc) h _
  · exact stays_keyLike (fun c hc => reads_quotedText hc) h _
  · split
    · exact stays_separator h _
    · split
      · exact stays_blockEntry h
      · exact stays_plain h
  · split
    · exact stays_separator h _
    · exact stays_plain h
  · split
    · exact stays_keyMark h
    · exact stays_plain h
  · split
    · exact stays_valueMark h
    · exact stays_plain h
  · split
    · exact stays_block h
    · exact hunexpected
  · split
    · exact stays_block h
    · exact hunexpected
  · split
    · exact stays_plain h
    · exact hunexpected

/-- A scan is refused only for what is in the text. -/
theorem isOfSplitting_of_run (h : s.cursor.IsIn cs) {fuel : Nat} {r : Refusal}
    (hrun : (run fuel s).2 = some r) : IsOfSplitting cs r := by
  induction fuel generalizing s with
  | zero =>
      cases hrun
      exact isOfSplitting_malformed cs _
  | succ fuel ih =>
      have hstale := stays_dropStale (isIn_skipBlanks h (s.cursor.rest.length + 1))
      rw [run] at hrun
      split at hrun <;> rename_i hdrop <;> rw [hdrop] at hstale
      · cases hrun
        exact hstale
      · rename_i t
        have hunwound : (t.unwind t.cursor.column).cursor.IsIn cs := by
          rw [cursor_unwind]
          exact hstale
        simp only at hrun
        split at hrun
        · have hend := stays_streamEnd hunwound
          split at hrun <;> rename_i heq <;> rw [heq] at hend <;> cases hrun
          exact hend
        · have hnext := stays_next hunwound
          split at hrun <;> rename_i heq <;> rw [heq] at hnext
          · exact ih hnext hrun
          · cases hrun
            exact hnext

end Scan

/-- The refusal behind the tokens of a text is about what is in the text. -/
theorem isOfSplitting_of_tokens {text : String} {r : Refusal} (h : (tokens text).2 = some r) :
    IsOfSplitting text.toList r := by
  unfold tokens at h
  simp only at h
  split at h
  · refine Scan.isOfSplitting_of_run ?_ h
    change _ <:+ text.toList
    split
    · exact List.drop_suffix 1 _
    · exact List.suffix_refl _
  · cases h
    exact isOfSplitting_malformed _ _

end ServiceShell.Yaml
