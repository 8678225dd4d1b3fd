import Mathlib.Data.List.Basic

/-!
# Lines of a text

A text is cut into lines at the characters that end one.  The newline does; readers differ on the
other characters that move down the page.  What is shown here holds for any set of them that has
the newline in it.

Main results:

- Definition `linesBy`: the lines of a text.
- Theorem `linesBy_intercalate_eq_iff`: texts that are joined by newlines are the lines of what
  they make exactly when none of them has the end of a line in it.
-/

namespace ServiceShell.Text

/-! ## Ends of lines -/

/-- Whether some reader takes a character for the end of a line: the controls that move down, the
separators of records, and the line and paragraph separators. -/
def isLineBreak (c : Char) : Bool :=
  let n := c.toNat
  (10 ≤ n && n ≤ 13) || (28 ≤ n && n ≤ 30) || n == 0x85 || n == 0x2028 || n == 0x2029

/-- A choice of characters that end lines: the newline, and others as a reader likes. -/
structure EndsLines (ends : Char → Bool) : Prop where
  /-- The newline ends a line. -/
  newline : ends '\n' = true
  /-- Whatever ends a line is a line break. -/
  isLineBreak_of_ends : ∀ c, ends c = true → isLineBreak c = true

theorem endsLines_isLineBreak : EndsLines isLineBreak := ⟨by decide, fun _ h => h⟩

theorem endsLines_newline : EndsLines (· = '\n') := by
  refine ⟨by decide, ?_⟩
  intro c hc
  rw [of_decide_eq_true hc]
  decide

/-! ## Texts on one line -/

variable {ends : Char → Bool}

/-- A text on one line: none of its characters ends a line. -/
def IsOneLine (ends : Char → Bool) (text : String) : Prop := ∀ c ∈ text.toList, ends c = false

instance (ends : Char → Bool) (text : String) : Decidable (IsOneLine ends text) :=
  List.decidableBAll (ends · = false) text.toList

@[simp] theorem isOneLine_append {s t : String} :
    IsOneLine ends (s ++ t) ↔ IsOneLine ends s ∧ IsOneLine ends t := by
  simp only [IsOneLine, String.toList_append, List.mem_append, or_imp, forall_and]

/-- A text without line breaks is on one line, whatever ends lines. -/
theorem EndsLines.isOneLine (hends : EndsLines ends) {text : String}
    (h : IsOneLine isLineBreak text) : IsOneLine ends text := by
  intro c hc
  rw [← Bool.not_eq_true]
  intro hend
  have hbreak := hends.isLineBreak_of_ends c hend
  rw [h c hc] at hbreak
  exact Bool.false_ne_true hbreak

/-- Texts that are joined by a text on one line are on one line together if each of them is. -/
theorem isOneLine_intercalate_iff {separator : String} (hseparator : IsOneLine ends separator)
    {texts : List String} :
    IsOneLine ends (separator.intercalate texts) ↔ ∀ t ∈ texts, IsOneLine ends t := by
  induction texts with
  | nil => simp [IsOneLine]
  | cons t rest ih =>
      cases rest with
      | nil => simp
      | cons u rest =>
          rw [String.intercalate_cons_cons, isOneLine_append, isOneLine_append, ih,
            List.forall_mem_cons]
          simp [hseparator]

/-! ## Lines -/

/-- The lines of a text: what stands before, between and behind the characters that end lines. -/
def linesBy (ends : Char → Bool) (text : String) : List String :=
  (text.toList.splitOnP ends).map String.ofList

theorem linesBy_of_isOneLine {text : String} (h : IsOneLine ends text) :
    linesBy ends text = [text] := by
  rw [linesBy, List.splitOnP_eq_singleton h, List.map_singleton, String.ofList_toList]

/-- A line that is ended by a newline is the first one. -/
theorem linesBy_newline (hnewline : ends '\n' = true) {line : String} (h : IsOneLine ends line)
    (rest : String) : linesBy ends (line ++ "\n" ++ rest) = line :: linesBy ends rest := by
  have hchars : (line ++ "\n" ++ rest).toList = line.toList ++ '\n' :: rest.toList := by
    simp
  rw [linesBy, hchars, List.splitOnP_append_cons_of_forall_mem h _ hnewline, List.map_cons,
    String.ofList_toList]
  rfl

/-- A text has one line more than it has characters that end lines. -/
theorem length_linesBy (text : String) :
    (linesBy ends text).length = text.toList.countP ends + 1 := by
  have hsplit : ∀ cs : List Char, (cs.splitOnP ends).length = cs.countP ends + 1 := by
    intro cs
    induction cs with
    | nil => rw [List.splitOnP_nil, List.countP_nil, List.length_singleton]
    | cons c rest ih =>
        rw [List.splitOnP_cons_eq_if_modifyHead, List.countP_cons]
        split
        · rw [List.length_cons, ih]
        · rw [List.length_modifyHead, ih, Nat.add_zero]
  rw [linesBy, List.length_map, hsplit]

/-- What ends lines in texts that are joined by newlines: the newlines between them, and what ends
lines inside them. -/
theorem countP_intercalate (hnewline : ends '\n' = true) {line : String} {lines : List String} :
    ("\n".intercalate (line :: lines)).toList.countP ends =
      lines.length + ((line :: lines).flatMap String.toList).countP ends := by
  induction lines generalizing line with
  | nil => simp
  | cons next rest ih =>
      rw [String.intercalate_cons_cons, String.toList_append, String.toList_append,
        List.countP_append, List.countP_append, ih]
      have hbreak : "\n".toList.countP ends = 1 := by
        simp [hnewline]
      simp only [List.flatMap_cons, List.countP_append, List.length_cons, hbreak]
      omega

/-- Texts that are joined by newlines are the lines of what they make exactly when none of them has
the end of a line in it. -/
theorem linesBy_intercalate_eq_iff (hnewline : ends '\n' = true) {lines : List String}
    (hne : lines ≠ []) :
    linesBy ends ("\n".intercalate lines) = lines ↔ ∀ l ∈ lines, IsOneLine ends l := by
  constructor
  · -- A line with the end of a line in it would make more lines than there are.
    intro heq
    cases lines with
    | nil => exact absurd rfl hne
    | cons line rest =>
        have hlength := congrArg List.length heq
        rw [length_linesBy, countP_intercalate hnewline, List.length_cons] at hlength
        have hnone : ((line :: rest).flatMap String.toList).countP ends = 0 := by
          omega
        intro l hl c hc
        simpa using List.countP_eq_zero.mp hnone c (List.mem_flatMap.mpr ⟨l, hl, hc⟩)
  · intro hlines
    induction lines with
    | nil => exact absurd rfl hne
    | cons line rest ih =>
        rw [List.forall_mem_cons] at hlines
        cases rest with
        | nil => rw [String.intercalate_singleton, linesBy_of_isOneLine hlines.1]
        | cons next rest =>
            rw [String.intercalate_cons_cons, linesBy_newline hnewline hlines.1,
              ih (List.cons_ne_nil _ _) hlines.2]

end ServiceShell.Text
