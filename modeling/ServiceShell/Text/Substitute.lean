/-!
# Substitution from left to right

Replaces the matches of a rule in a text. The rule looks at the text from one position on; when it
matches, the matched characters are left out and the search goes on behind them, so matches never
overlap and a replacement is not looked at again.

Main statements:

- `substitute_of_forall_none`: a text in which the rule never matches stays as it is.
-/

namespace ServiceShell.Text

/-- A match at the start of a text: what is written for it, and how many characters it has beyond
its first. -/
structure Match where
  /-- The text written in place of the match. -/
  replacement : List Char
  /-- The number of matched characters after the first. -/
  further : Nat

/-- Replaces the matches of `rule`, leaving out the first `skipped` characters, which belong to a
match already replaced. -/
def substituteAfter (rule : List Char → Option Match) : Nat → List Char → List Char
  | _, [] => []
  | skipped + 1, _ :: r => substituteAfter rule skipped r
  | 0, c :: r =>
    match rule (c :: r) with
    | some m => m.replacement ++ substituteAfter rule m.further r
    | none => c :: substituteAfter rule 0 r

/-- Replaces the matches of `rule` from left to right. -/
def substitute (rule : List Char → Option Match) (cs : List Char) : List Char :=
  substituteAfter rule 0 cs

/-- A text in which the rule never matches stays as it is. -/
theorem substitute_of_forall_none {rule : List Char → Option Match} {cs : List Char}
    (h : ∀ t, t <:+ cs → rule t = none) : substitute rule cs = cs := by
  unfold substitute
  induction cs with
  | nil => simp [substituteAfter]
  | cons c r ih =>
    have hc : rule (c :: r) = none := h _ (List.suffix_refl _)
    simp only [substituteAfter, hc]
    rw [ih fun t ht => h t (ht.trans (List.suffix_cons c r))]

end ServiceShell.Text
