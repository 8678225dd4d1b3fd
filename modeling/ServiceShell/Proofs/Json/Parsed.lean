import ServiceShell.Proofs.Document.Made
import ServiceShell.Proofs.Json.Tokens
import ServiceShell.Proofs.Text.Digits

/-!
# What is read from JSON text

Whatever text is read, the document that comes out has distinct texts as keys, integers with not too
many digits, and no scalars that JSON does not know.  This is an invariant of the reader: what is
open and what is complete is made of such scalars, and each token keeps it so.

Main results:

- Definition `Json.IsParsed`: the scalars that tokens stand for.
- Theorem `Json.isParsed_of_tokenAt`: a token stands for such a scalar.
- Theorem `Json.State.Holds.step`: each token keeps the invariant.
- Theorem `Json.isMadeOf_of_parse`: a document that was read is made of such scalars.
-/

namespace ServiceShell

namespace Json

/-! ## Scalars -/

/-- The scalars that tokens stand for: integers have not too many digits. -/
def IsParsed : Scalar → Prop
  | .null | .bool _ | .text _ | .number (.float _) => True
  | .number (.int n) => HasFewDigits n
  | .bytes _ | .date _ | .instant _ | .set _ | .ellipsis => False

theorem isParsed_of_mem_words {word : String × Scalar} (h : word ∈ words) : IsParsed word.2 := by
  simp only [words, List.mem_cons, List.not_mem_nil, or_false] at h
  rcases h with rfl | rfl | rfl | rfl | rfl | rfl <;> trivial

/-- An integer that is read has not too many digits. -/
theorem isParsed_of_unsignedToken? {negative : Bool} {cs : List Char} {s : Scalar} {used : Nat}
    (h : unsignedToken? negative cs = some (.scalar s, used)) : IsParsed s := by
  unfold unsignedToken? at h
  simp only at h
  generalize (if (fractionDigits (cs.drop (wholeDigits cs).length)).isEmpty then 0
    else (fractionDigits (cs.drop (wholeDigits cs).length)).length + 1) = fractionLength at h
  split at h
  · cases h
  · rename_i hsome
    split at h
    · split at h <;> rename_i hfew
      · cases h
      · cases h
        have hvalue : digitsValue (wholeDigits cs) < 10 ^ (wholeDigits cs).length :=
          digitsValue_lt (isPrefix_wholeDigits cs).2
        have hpos : 0 < (wholeDigits cs).length := by
          rw [List.length_pos_iff]
          simpa using hsome
        exact hasFewDigits_of_lt ((natAbs_signed _ _).trans_lt hvalue) hpos (Nat.not_lt.mp hfew)
    · cases h
      trivial

/-- A token stands for such a scalar. -/
theorem isParsed_of_tokenAt {c : Char} {r : List Char} {s : Scalar} {further : Nat}
    (h : tokenAt c r = (.scalar s, further)) : IsParsed s := by
  rcases word_or_number_of_tokenAt (t := .scalar s) trivial h with
    ⟨w, hw, hword⟩ | ⟨_, _, _, -, hnumber⟩
  · cases hword
    exact isParsed_of_mem_words hw
  · exact isParsed_of_unsignedToken? hnumber

/-- Every token of a text stands for such a scalar, if it stands for one. -/
theorem isParsed_of_mem_tokensFrom {offset skipped : Nat} {cs : List Char} {s : Scalar}
    {place : Nat} (h : (.scalar s, place) ∈ tokensFrom offset skipped cs) : IsParsed s := by
  obtain ⟨_, _, _, -, htoken⟩ := exists_tokenAt_of_mem h
  exact isParsed_of_tokenAt htoken

/-! ## The invariant -/

/-- What was read of a list or an object that is still open. -/
def Frame.Holds : Frame → Prop
  | .list read => ∀ d ∈ read, d.IsMadeOf IsParsed
  | .object read _ => ∀ f ∈ read, (∃ name, f.1 = .text name) ∧ f.2.IsMadeOf IsParsed

/-- What was read so far is made of scalars that tokens stand for. -/
structure State.Holds (s : State) : Prop where
  /-- What is still open. -/
  stack : ∀ frame ∈ s.stack, frame.Holds
  /-- The document that is complete. -/
  done : ∀ d, s.phase = .done d → d.IsMadeOf IsParsed

/-- What was open is such a document when it is closed. -/
theorem Frame.Holds.close {frame : Frame} (h : frame.Holds) :
    frame.close.IsMadeOf IsParsed := by
  cases frame with
  | list read => exact .list fun d hd => h d (List.mem_reverse.mp hd)
  | object read name =>
      exact .ofEntries (fun f hf => (h f (List.mem_reverse.mp hf)).1)
        (fun f hf => (h f (List.mem_reverse.mp hf)).2)

/-- A value that is complete goes to what is open around it. -/
theorem State.holds_deliver {d : Document} {stack : List Frame} (hd : d.IsMadeOf IsParsed)
    (hstack : ∀ frame ∈ stack, frame.Holds) : (State.deliver d stack).Holds := by
  cases stack with
  | nil => exact ⟨by simp [deliver], fun _ heq => by cases heq; exact hd⟩
  | cons frame stack =>
      obtain ⟨hframe, hrest⟩ := List.forall_mem_cons.mp hstack
      cases frame with
      | list read =>
          exact ⟨List.forall_mem_cons.mpr ⟨List.forall_mem_cons.mpr ⟨hd, hframe⟩, hrest⟩,
            fun _ heq => by cases heq⟩
      | object read name =>
          exact ⟨List.forall_mem_cons.mpr
              ⟨List.forall_mem_cons.mpr ⟨⟨⟨name, rfl⟩, hd⟩, hframe⟩, hrest⟩,
            fun _ heq => by cases heq⟩

/-- The start of a value keeps the invariant. -/
theorem State.Holds.beginValue {s later : State} (hs : s.Holds) {token : Token} {offset : Nat}
    (htoken : ∀ v, token = .scalar v → IsParsed v) (h : s.beginValue token offset = .ok later) :
    later.Holds := by
  unfold State.beginValue at h
  split at h <;> cases h
  · exact ⟨List.forall_mem_cons.mpr ⟨by simp [Frame.Holds], hs.stack⟩, fun _ heq => by cases heq⟩
  · exact ⟨List.forall_mem_cons.mpr ⟨by simp [Frame.Holds], hs.stack⟩, fun _ heq => by cases heq⟩
  · exact holds_deliver (.scalar trivial) hs.stack
  · exact holds_deliver (.scalar (htoken _ rfl)) hs.stack

/-- A field name keeps the invariant. -/
theorem State.Holds.beginField {s later : State} (hs : s.Holds) {token : Token} {offset : Nat}
    (h : s.beginField token offset = .ok later) : later.Holds := by
  unfold State.beginField at h
  split at h <;> cases h
  rename_i hstack
  have hall := hs.stack
  rw [hstack] at hall
  obtain ⟨hframe, hrest⟩ := List.forall_mem_cons.mp hall
  exact ⟨List.forall_mem_cons.mpr ⟨hframe, hrest⟩, fun _ heq => by cases heq⟩

/-- Each token keeps the invariant. -/
theorem State.Holds.step {s later : State} (hs : s.Holds) {token : Token} {offset : Nat}
    (htoken : ∀ v, token = .scalar v → IsParsed v) (h : s.step token offset = .ok later) :
    later.Holds := by
  -- What is innermost is closed, or goes on behind a comma.
  have hclose : ∀ {frame stack}, s.stack = frame :: stack →
      (State.deliver frame.close stack).Holds := by
    intro frame stack heq
    have hall := hs.stack
    rw [heq] at hall
    obtain ⟨hframe, hrest⟩ := List.forall_mem_cons.mp hall
    exact holds_deliver hframe.close hrest
  have hsame : ∀ {phase stack}, s.stack = stack → (∀ d, phase ≠ .done d) →
      (⟨phase, stack⟩ : State).Holds := by
    rintro phase stack rfl hphase
    exact ⟨hs.stack, fun d heq => absurd heq (hphase d)⟩
  unfold State.step at h
  split at h
  · exact hs.beginValue htoken h
  · cases h
    exact hclose (by assumption)
  · exact hs.beginValue htoken h
  · cases h
    exact hsame (by assumption) (by simp)
  · cases h
    exact hsame (by assumption) (by simp)
  · cases h
    exact hclose (by assumption)
  · cases h
    exact hclose (by assumption)
  · cases h
    exact hclose (by assumption)
  · exact hs.beginField h
  · exact hs.beginField h
  · cases h
    exact hsame rfl (by simp)
  · cases h

/-- Tokens keep the invariant up to the document that they make. -/
theorem State.Holds.run {s : State} (hs : s.Holds) {length : Nat} {ts : List (Token × Nat)}
    {d : Document} (htokens : ∀ v place, (.scalar v, place) ∈ ts → IsParsed v)
    (h : s.run length ts = .ok d) : d.IsMadeOf IsParsed := by
  induction ts generalizing s with
  | nil =>
      unfold State.run at h
      split at h
      · rename_i heq
        cases h
        exact hs.done _ heq
      · cases h
  | cons t ts ih =>
      obtain ⟨token, offset⟩ := t
      rw [State.run] at h
      split at h
      · rename_i hstep
        refine ih (hs.step ?_ hstep) (fun v place hv => ?_) h
        · rintro v rfl
          exact htokens v offset List.mem_cons_self
        · exact htokens v place (List.mem_cons_of_mem _ hv)
      · cases h

/-! ## Main statement -/

/-- Whatever text is read, the document has distinct texts as keys, and scalars that tokens stand
for. -/
theorem isMadeOf_of_parse {text : String} {d : Document} (h : parse text = .ok d) :
    d.IsMadeOf IsParsed := by
  unfold parse at h
  simp only at h
  split at h
  · cases h
  · split at h
    · rename_i hrun
      cases h
      exact State.Holds.run ⟨by simp [State.start], fun _ heq => by cases heq⟩
        (fun v place hv => isParsed_of_mem_tokensFrom hv) hrun
    · cases h

end Json

end ServiceShell
