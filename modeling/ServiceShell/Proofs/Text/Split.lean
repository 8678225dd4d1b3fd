import Mathlib.Data.String.Basic

/-!
# Texts that are split

A text is split at a character the way its list of characters is.  What is put behind a text without
a further separator only makes its last part longer.

Main results:

- Theorem `Text.splitOn_ofList`: the parts of a text are those of its characters.
- Theorem `Text.splitOn_append`: what is behind the last separator goes with the last part.
-/

namespace ServiceShell.Text

open String

/-- The loop that splits a text: `l` is behind it, `m` is the part that it is in, `r` is still to
come. -/
theorem splitOnAux_eq (c : Char) (l m r : List Char) (acc : List String) :
    splitOnAux (ofList (l ++ m ++ r)) (ofList [c]) ⟨utf8Len l⟩ ⟨utf8Len l + utf8Len m⟩ 0 acc =
      acc.reverse ++ (List.splitOnPPrepend (· == c) r m.reverse).map ofList := by
  have hsep : Pos.Raw.get (ofList [c]) 0 = c := by simpa using get_of_valid [] [c]
  have hafter : Pos.Raw.next (ofList [c]) 0 = ⟨c.utf8Size⟩ := by simpa using next_of_valid [] c []
  have hend : (⟨c.utf8Size⟩ : Pos.Raw).atEnd (ofList [c]) = true := by
    simpa using atEnd_of_valid [c] []
  induction r generalizing l m acc with
  | nil =>
      have hatEnd : (⟨utf8Len l + utf8Len m⟩ : Pos.Raw).atEnd (ofList (l ++ m ++ [])) = true := by
        simpa using atEnd_of_valid (l ++ m) []
      rw [splitOnAux, if_pos hatEnd]
      simpa using extract_of_valid l m []
  | cons d r ih =>
      have hatEnd : ¬ (⟨utf8Len l + utf8Len m⟩ : Pos.Raw).atEnd (ofList (l ++ m ++ d :: r)) =
          true := by
        simpa using atEnd_of_valid (l ++ m) (d :: r)
      have hget : Pos.Raw.get (ofList (l ++ m ++ d :: r)) ⟨utf8Len l + utf8Len m⟩ = d := by
        simpa using get_of_valid (l ++ m) (d :: r)
      have hnext : Pos.Raw.next (ofList (l ++ m ++ d :: r)) ⟨utf8Len l + utf8Len m⟩ =
          ⟨utf8Len l + utf8Len m + d.utf8Size⟩ := by
        simpa using next_of_valid (l ++ m) d r
      rw [splitOnAux, if_neg hatEnd, hget, hsep, hafter, hnext, List.splitOnPPrepend_cons_eq_if]
      by_cases hd : d = c
      · subst hd
        have hback : (⟨utf8Len l + utf8Len m + d.utf8Size⟩ : Pos.Raw).unoffsetBy ⟨d.utf8Size⟩ =
            ⟨utf8Len l + utf8Len m⟩ := by
          simp [Pos.Raw.unoffsetBy]
        have hrest := ih (l ++ m ++ [d]) [] (ofList m :: acc)
        simp only [utf8Len_append, utf8Len_cons, utf8Len_nil, Nat.zero_add, Nat.add_zero,
          List.append_nil, List.append_assoc (l ++ m) [d] r, List.singleton_append,
          List.reverse_nil] at hrest
        simp only [beq_self_eq_true, if_true, hend, hback, extract_of_valid]
        rw [hrest]
        simp
      · have hback : (⟨utf8Len l + utf8Len m⟩ : Pos.Raw).unoffsetBy 0 =
            ⟨utf8Len l + utf8Len m⟩ := by
          simp [Pos.Raw.unoffsetBy]
        have hrest := ih l (m ++ [d]) acc
        simp only [List.append_assoc, List.singleton_append, utf8Len_append, utf8Len_cons,
          utf8Len_nil, Nat.zero_add, List.reverse_append, List.reverse_cons, List.reverse_nil,
          List.nil_append, Nat.add_assoc] at hrest hnext ⊢
        rw [if_neg (by simpa using hd), if_neg (by simpa using hd), hback, hnext, hrest]

/-- The parts of a text are those of its characters. -/
theorem splitOn_ofList (s : String) (c : Char) :
    s.splitOn (ofList [c]) = (s.toList.splitOn c).map ofList := by
  have hone : ¬ (ofList [c] == "") = true := by simp
  have hparts := splitOnAux_eq c [] [] s.toList []
  rw [splitOn, if_neg hone, List.splitOn, ← List.splitOnPPrepend_nil_right]
  simpa using hparts

/-- What is behind the last separator goes with the last part. -/
theorem splitOn_append {c : Char} {ending : List Char} (h : c ∉ ending) (cs : List Char) :
    (cs ++ ending).splitOn c =
      (cs.splitOn c).dropLast ++ [(cs.splitOn c).getLast (List.splitOn_ne_nil c cs) ++ ending] := by
  induction cs with
  | nil => simp [List.splitOn_eq_singleton h]
  | cons d cs ih =>
      obtain ⟨first, rest, hparts⟩ := List.exists_cons_of_ne_nil (List.splitOn_ne_nil c cs)
      simp only [List.cons_append, List.splitOn_cons_eq_if_modifyHead, ih, hparts]
      by_cases hd : (d == c) = true
      · simp [hd]
      · cases rest <;> simp [hd]

end ServiceShell.Text
