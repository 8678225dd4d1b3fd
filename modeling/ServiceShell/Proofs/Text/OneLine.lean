import ServiceShell.Proofs.Text.Line
import ServiceShell.Proofs.Text.Naming
import ServiceShell.Proofs.Text.Unique
import ServiceShell.Text.Plain
import ServiceShell.Text.Quoted

/-!
# Texts that are made to stay on one line

Three ways in which the texts of a model are made fit for one line, whatever they hold: the plain
text of documentation has no blank character but the space, what is quoted has printed characters
only, and so has a name on the command line.

Main results:

- Theorems `isOneLine_plain` and `isOneLine_summary`: plain text stays on one line.
- Theorem `isOneLine_quote`: so does what is quoted.
- Theorems `isOneLine_kebab`, `isOneLine_identifier` and `isOneLine_firstFree`: so do names.
-/

namespace ServiceShell

namespace Text

/-! ## Characters -/

/-- A line break is a blank character, and it is not the space. -/
theorem isBlank_of_isLineBreak {c : Char} (h : isLineBreak c = true) :
    isBlank c = true ∧ c ≠ ' ' := by
  constructor
  · simp only [isLineBreak, isBlank, Bool.or_eq_true, Bool.and_eq_true, decide_eq_true_eq,
      beq_iff_eq] at h ⊢
    omega
  · rintro rfl
    exact absurd h (by decide)

/-- A printed character breaks no line. -/
theorem isLineBreak_of_admits {c : Char} (h : Alphabet.ascii.admits c = true) :
    isLineBreak c = false := by
  rw [← Bool.not_eq_true]
  simp only [Alphabet.admits, isLineBreak, Bool.or_eq_true, Bool.and_eq_true, decide_eq_true_eq,
    beq_iff_eq] at h ⊢
  omega

/-- Letters and digits are printed characters, in lower case too. -/
theorem admits_of_isAlphanum {c : Char} (h : c.isAlphanum = true) :
    Alphabet.ascii.admits c = true ∧ Alphabet.ascii.admits c.toLower = true :=
  of_isAlphanum (p := fun c => Alphabet.ascii.admits c = true ∧
    Alphabet.ascii.admits c.toLower = true) (by decide +kernel) h

/-- A text of printed characters is on one line. -/
theorem isOneLine_of_admits {cs : List Char} (h : ∀ c ∈ cs, Alphabet.ascii.admits c = true) :
    IsOneLine isLineBreak (String.ofList cs) := by
  intro c hc
  rw [String.toList_ofList] at hc
  exact isLineBreak_of_admits (h c hc)

/-! ## Plain text -/

/-- Where white space is collapsed, no line is broken. -/
theorem isLineBreak_of_mem_collapse {c : Char} {cs : List Char} (h : c ∈ collapse cs) :
    isLineBreak c = false := by
  rw [← Bool.not_eq_true]
  intro hbreak
  obtain ⟨hblank, hspace⟩ := isBlank_of_isLineBreak hbreak
  rcases mem_joinWith h with hc | ⟨w, hw, hc⟩
  · exact hspace hc
  · have hwanted := (mem_of_mem_runs hw).2 c hc
    simp [hblank] at hwanted

/-- Plain text stays on one line. -/
theorem isOneLine_plain (text : String) : IsOneLine isLineBreak (plain text) := by
  intro c hc
  rw [plain, String.toList_ofList] at hc
  exact isLineBreak_of_mem_collapse hc

theorem mem_of_mem_firstSentence {c : Char} {cs : List Char} (h : c ∈ firstSentence cs) :
    c ∈ cs := by
  fun_induction firstSentence cs with
  | case1 d e rest _ =>
      rw [List.mem_singleton] at h
      exact h ▸ List.mem_cons_self
  | case2 d e rest _ ih =>
      rcases List.mem_cons.mp h with hd | hrest
      · exact hd ▸ List.mem_cons_self
      · exact List.mem_cons_of_mem _ (ih hrest)
  | case3 => exact h

/-- What is left of a text that was cut stood in it, but for the dots at the end. -/
theorem mem_of_mem_truncate {c : Char} {limit : Int} {cs : List Char} (h : c ∈ truncate limit cs) :
    c ∈ cs ∨ c = '.' := by
  unfold truncate at h
  split at h
  · rcases List.mem_append.mp h with htrimmed | hdots
    · left
      rw [trimRight, List.mem_reverse] at htrimmed
      have htaken := List.mem_reverse.mp ((List.dropWhile_sublist _).subset htrimmed)
      unfold takeSigned at htaken
      split at htaken <;> exact List.mem_of_mem_take htaken
    · right
      simpa using hdots
  · exact .inl h

/-- The first sentence of documentation stays on one line, whatever its length. -/
theorem isOneLine_summary (text : String) (limit : Int) :
    IsOneLine isLineBreak (summary text limit) := by
  intro c hc
  rw [summary, String.toList_ofList, summaryWith] at hc
  split at hc
  · cases hc
  · rename_i d rest hplain
    rcases mem_of_mem_truncate hc with hsentence | rfl
    · have hcollapsed : c ∈ plainWith Entity.decode text.toList :=
        hplain ▸ mem_of_mem_firstSentence hsentence
      exact isLineBreak_of_mem_collapse hcollapsed
    · decide

/-! ## Quoted text -/

theorem admits_hexDigit (n : Nat) : Alphabet.ascii.admits (hexDigit n) = true := by
  have hdigits : ∀ k < 16, Alphabet.ascii.admits (Nat.digitChar k) = true := by decide
  exact hdigits (n % 16) (Nat.mod_lt n (by decide))

theorem admits_of_mem_escapeUnit {c : Char} {n : Nat} (h : c ∈ escapeUnit n) :
    Alphabet.ascii.admits c = true := by
  simp only [escapeUnit, hexUnit, List.mem_cons, List.not_mem_nil, or_false] at h
  rcases h with rfl | rfl | rfl | rfl | rfl | rfl
  · decide
  · decide
  all_goals exact admits_hexDigit _

/-- What is written for a character of a quoted text is printed. -/
theorem admits_of_mem_encode {c d : Char} (h : d ∈ Alphabet.ascii.encode c) :
    Alphabet.ascii.admits d = true := by
  have hletter : ∀ letter, Alphabet.ascii.admits letter = true → d ∈ ['\\', letter] →
      Alphabet.ascii.admits d = true := by
    intro letter hadmits hd
    rcases List.mem_cons.mp hd with rfl | hd
    · decide
    · rw [List.mem_singleton.mp hd]
      exact hadmits
  unfold Alphabet.encode at h
  split at h
  case h_8 =>
    split at h <;> rename_i hadmits
    · rw [List.mem_singleton.mp h]
      exact hadmits
    · unfold escapeCode at h
      split at h
      · exact admits_of_mem_escapeUnit h
      · rcases List.mem_append.mp h with hhigh | hlow
        · exact admits_of_mem_escapeUnit hhigh
        · exact admits_of_mem_escapeUnit hlow
  all_goals exact hletter _ (by decide) h

/-- What is quoted stays on one line. -/
theorem isOneLine_quote (text : String) : IsOneLine isLineBreak (Alphabet.ascii.quote text) := by
  apply isOneLine_of_admits
  intro c hc
  simp only [Alphabet.quoteChars, List.cons_append, List.mem_cons, List.mem_append,
    List.mem_flatMap, List.not_mem_nil, or_false] at hc
  rcases hc with rfl | ⟨d, -, hd⟩ | rfl
  · decide
  · exact admits_of_mem_encode hd
  · decide

end Text

/-! ## Names -/

namespace Naming

open Text

/-- Words that are joined by a printed character are printed. -/
theorem admits_of_mem_joinWords {separator c : Char}
    (hseparator : Alphabet.ascii.admits separator.toLower = true) {cs : List Char}
    (h : c ∈ joinWords separator cs) : Alphabet.ascii.admits c = true := by
  obtain ⟨d, hd, rfl⟩ := List.mem_map.mp h
  rcases mem_joinWith hd with rfl | ⟨w, hw, hdw⟩
  · exact hseparator
  · exact (admits_of_isAlphanum ((mem_of_mem_runs hw).2 d hdw)).2

/-- A hyphenated name stays on one line. -/
theorem isOneLine_kebab (name : String) : IsOneLine isLineBreak (kebab name) :=
  isOneLine_of_admits fun _ hc => admits_of_mem_joinWords (by decide) hc

/-- A printed name is a printed variable. -/
theorem admits_of_mem_toVariable {name : List Char}
    (hname : ∀ c ∈ name, Alphabet.ascii.admits c = true) {c : Char} (h : c ∈ toVariable name) :
    Alphabet.ascii.admits c = true := by
  have hunderscore : Alphabet.ascii.admits '_' = true := by decide
  unfold toVariable at h
  split at h
  · have hparam : "param".toList.all Alphabet.ascii.admits = true := by decide
    exact List.all_eq_true.mp hparam c h
  · -- An underscore may come before the name, and one behind it.
    have hend : ∀ started : List Char, (∀ d ∈ started, Alphabet.ascii.admits d = true) →
        c ∈ (if reserved.contains (String.ofList started) then started ++ ['_'] else started) →
        Alphabet.ascii.admits c = true := by
      intro started hstarted hc
      split at hc
      · rcases List.mem_append.mp hc with hbefore | hlast
        · exact hstarted c hbefore
        · rw [List.mem_singleton.mp hlast]
          exact hunderscore
      · exact hstarted c hc
    refine hend _ ?_ h
    split
    · exact List.forall_mem_cons.mpr ⟨hunderscore, hname⟩
    · exact hname

/-- The name of a variable stays on one line. -/
theorem isOneLine_identifier (name : String) : IsOneLine isLineBreak (identifier name) :=
  isOneLine_of_admits fun _ hc =>
    admits_of_mem_toVariable (fun _ hc => admits_of_mem_joinWords (by decide) hc) hc

/-- A number stays on one line. -/
theorem isOneLine_repr (n : Nat) : IsOneLine isLineBreak n.repr := by
  intro c hc
  rw [Nat.toList_repr] at hc
  have hdigit := Nat.isDigit_of_mem_toDigits (by decide) (by decide) hc
  exact isLineBreak_of_admits (admits_of_isAlphanum (by simp [Char.isAlphanum, hdigit])).1

/-- A name with a number behind it stays on one line if the name does. -/
theorem isOneLine_firstFree {base separator : String} (hbase : IsOneLine isLineBreak base)
    (hseparator : IsOneLine isLineBreak separator) (taken : List String) :
    IsOneLine isLineBreak (firstFree variableOf taken base separator) := by
  obtain ⟨n, -, hresult, -⟩ :=
    firstFree_spec taken (variableOf_candidate_injective base separator)
  rw [hresult]
  cases n with
  | zero => exact hbase
  | succ n =>
      simp only [candidate, isOneLine_append]
      exact ⟨⟨hbase, hseparator⟩, isOneLine_repr _⟩

/-- The variable of a name stays on one line if the name does. -/
theorem isOneLine_variableOf {name : String} (h : IsOneLine isLineBreak name) :
    IsOneLine isLineBreak (variableOf name) := by
  intro c hc
  rw [variableOf, String.toList_ofList] at hc
  obtain ⟨d, hd, rfl⟩ := List.mem_map.mp hc
  split
  · decide
  · exact h d hd

end Naming

end ServiceShell
