/-!
# White space

The blank characters of Unicode text and the operations that depend on them: trimming, and the
split of a text into its maximal runs of wanted characters.

Main statements:

- `mem_of_mem_runs`: a run holds wanted characters only, and is not empty.
-/

namespace ServiceShell.Text

/-! ## Blank characters -/

/-- The blank characters: the controls that separate lines and records, the spaces of every width,
and the line and paragraph separators. -/
def isBlank (c : Char) : Bool :=
  let n := c.toNat
  (9 ≤ n && n ≤ 13) || (28 ≤ n && n ≤ 32) || n == 0x85 || n == 0xA0 || n == 0x1680
    || (0x2000 ≤ n && n ≤ 0x200A) || n == 0x2028 || n == 0x2029 || n == 0x202F
    || n == 0x205F || n == 0x3000

/-- Drops the blank characters at the start. -/
def trimLeft (cs : List Char) : List Char := cs.dropWhile isBlank

/-- Drops the blank characters at the end. -/
def trimRight (cs : List Char) : List Char := (cs.reverse.dropWhile isBlank).reverse

/-- Drops the blank characters at both ends. -/
def trim (cs : List Char) : List Char := trimRight (trimLeft cs)

/-- Whether a character is blank around a number: as elsewhere, but not the separators of
records. -/
def isMargin (c : Char) : Bool := isBlank c && !(28 ≤ c.toNat && c.toNat ≤ 31)

/-- Drops the blanks around a number. -/
def trimMargins (cs : List Char) : List Char :=
  ((cs.dropWhile isMargin).reverse.dropWhile isMargin).reverse

/-! ## Runs -/

/-- The maximal runs of wanted characters; `pending` is the current run, last character first. -/
def runsFrom (wanted : Char → Bool) (pending : List Char) : List Char → List (List Char)
  | [] => if pending.isEmpty then [] else [pending.reverse]
  | c :: r =>
    if wanted c then runsFrom wanted (c :: pending) r
    else if pending.isEmpty then runsFrom wanted [] r
    else pending.reverse :: runsFrom wanted [] r

/-- The maximal runs of wanted characters, from left to right. -/
def runs (wanted : Char → Bool) (cs : List Char) : List (List Char) :=
  runsFrom wanted [] cs

theorem mem_of_mem_runsFrom {wanted : Char → Bool} {cs pending w : List Char}
    (hp : ∀ c ∈ pending, wanted c = true) (h : w ∈ runsFrom wanted pending cs) :
    w ≠ [] ∧ ∀ c ∈ w, wanted c = true := by
  induction cs generalizing pending with
  | nil =>
    simp only [runsFrom] at h
    split at h
    · simp at h
    · next hne =>
      simp only [List.mem_singleton] at h
      subst h
      simp only [List.isEmpty_iff] at hne
      exact ⟨by simpa using hne, by simpa using hp⟩
  | cons c r ih =>
    simp only [runsFrom] at h
    split at h
    · next hc => exact ih (by simpa [hc] using hp) h
    · split at h
      · exact ih (by simp) h
      · next hne =>
        rcases List.mem_cons.1 h with rfl | h
        · simp only [List.isEmpty_iff] at hne
          exact ⟨by simpa using hne, by simpa using hp⟩
        · exact ih (by simp) h

/-- A run is not empty, and all its characters are wanted. -/
theorem mem_of_mem_runs {wanted : Char → Bool} {cs w : List Char} (h : w ∈ runs wanted cs) :
    w ≠ [] ∧ ∀ c ∈ w, wanted c = true :=
  mem_of_mem_runsFrom (by simp) h

/-- Puts a separator between the parts. -/
def joinWith (separator : Char) (parts : List (List Char)) : List Char :=
  List.intercalate [separator] parts

/-- Writes each run of blank characters as one space and drops those at the ends. -/
def collapse (cs : List Char) : List Char :=
  joinWith ' ' (runs (fun c => !isBlank c) cs)

end ServiceShell.Text
