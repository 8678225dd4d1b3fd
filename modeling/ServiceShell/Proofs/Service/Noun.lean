import ServiceShell.Proofs.Text.Naming
import ServiceShell.Service.Resource

/-!
# Nouns of operations

The noun of an operation is what stands behind its verb, with the last word in the singular.  The
rules for the singular overlap, but no rule leaves a word that one of them changes; so a noun behind
any verb is that noun again.

Main results:

- Definition `Resource.IsSingular`: the endings that no rule changes.
- Theorem `Resource.singular_singular`: the singular of a singular is the same word.
- Theorem `Resource.nounOf_eq_some_iff`: the parts of a name that has a noun.
- Theorem `Resource.noun?_verb`: a noun behind a verb is that noun.
-/

namespace ServiceShell.Resource

/-! ## Endings -/

theorem endsIn_iff {word : List Char} {endings : List String} :
    endsIn word endings = true ↔ ∃ e ∈ endings, ∃ stem, word = stem ++ e.toList := by
  simp only [endsIn, List.any_eq_true, List.isSuffixOf_iff_suffix]
  refine exists_congr fun e => and_congr_right fun _ => exists_congr fun stem => ?_
  exact eq_comm

/-- A word without its ending. -/
theorem dropEnd_append (stem ending : List Char) :
    dropEnd ending.length (stem ++ ending) = stem := by
  simp [dropEnd]

/-- An ending that is more than what is dropped loses its own end. -/
theorem dropEnd_append_append (stem left ending : List Char) :
    dropEnd ending.length (stem ++ (left ++ ending)) = stem ++ left := by
  rw [← List.append_assoc, dropEnd_append]

/-! ## Singulars -/

/-- Whether a word is no plural by its ending: it does not end in `s`, or in a way that singulars
do. -/
def IsSingular (word : List Char) : Prop :=
  endsIn word ["s"] = true → endsIn word ["ss", "us", "is"] = true

/-- A word that does not end in `s` is a singular. -/
theorem isSingular_of_last {stem : List Char} {last : Char} (h : last ≠ 's') :
    IsSingular (stem ++ [last]) := by
  intro hends
  obtain ⟨e, he, other, heq⟩ := endsIn_iff.mp hends
  rw [List.mem_singleton.mp he] at heq
  have hlast : last = 's' := (List.append_inj' heq rfl).2 |> List.cons.inj |>.1
  exact absurd hlast h

/-- No singular ends in what the rules for `es` look at. -/
theorem IsSingular.endsIn_eq_false {word : List Char} (h : IsSingular word)
    {endings : List String} (hes : ∀ e ∈ endings, ∃ front, e.toList = front ++ ['e', 's']) :
    endsIn word endings = false := by
  by_contra hends
  rw [Bool.not_eq_false, endsIn_iff] at hends
  obtain ⟨e, he, stem, rfl⟩ := hends
  obtain ⟨front, hfront⟩ := hes e he
  rw [hfront] at h
  have hplural : endsIn (stem ++ (front ++ ['e', 's'])) ["s"] = true :=
    endsIn_iff.mpr ⟨"s", List.mem_singleton_self _, stem ++ front ++ ['e'], by simp⟩
  obtain ⟨ending, hending, other, heq⟩ := endsIn_iff.mp (h hplural)
  have hback := congrArg List.reverse heq
  simp only [List.mem_cons, List.not_mem_nil, or_false] at hending
  rcases hending with rfl | rfl | rfl <;> simp at hback

/-- No rule changes a singular. -/
theorem IsSingular.singular_eq {word : List Char} (h : IsSingular word) : singular word = word := by
  have hies : endsIn word ["ies"] = false :=
    h.endsIn_eq_false fun e he => ⟨['i'], by rw [List.mem_singleton.mp he]; rfl⟩
  have hsses : endsIn word ["sses"] = false :=
    h.endsIn_eq_false fun e he => ⟨['s', 's'], by rw [List.mem_singleton.mp he]; rfl⟩
  have hes : endsIn word ["ches", "shes", "xes", "zes"] = false := by
    refine h.endsIn_eq_false fun e he => ⟨e.toList.take (e.toList.length - 2), ?_⟩
    revert e
    decide
  have hs : ¬ (endsIn word ["s"] && !endsIn word ["ss", "us", "is"]) = true := by
    rw [Bool.and_eq_true, Bool.not_eq_true']
    rintro ⟨hplural, hother⟩
    rw [h hplural] at hother
    cases hother
  rw [singular, hies, hsses, hes, Bool.and_false, if_neg Bool.false_ne_true,
    if_neg Bool.false_ne_true, if_neg Bool.false_ne_true, if_neg hs]

/-- A word in `sses` keeps `ss`. -/
theorem isSingular_dropEnd_sses {word : List Char} (h : endsIn word ["sses"] = true) :
    IsSingular (dropEnd 2 word) := by
  obtain ⟨e, he, stem, rfl⟩ := endsIn_iff.mp h
  rw [List.mem_singleton.mp he]
  change IsSingular (dropEnd ['e', 's'].length (stem ++ (['s', 's'] ++ ['e', 's'])))
  rw [dropEnd_append_append]
  exact fun _ => endsIn_iff.mpr ⟨"ss", by decide, stem, rfl⟩

/-- A word in another ending with `es` keeps a last letter that is no `s`. -/
theorem isSingular_dropEnd_es {word : List Char}
    (h : endsIn word ["ches", "shes", "xes", "zes"] = true) : IsSingular (dropEnd 2 word) := by
  obtain ⟨e, he, stem, rfl⟩ := endsIn_iff.mp h
  obtain ⟨front, last, hlast, heq⟩ :
      ∃ front last, last ≠ 's' ∧ e.toList = front ++ [last] ++ ['e', 's'] := by
    simp only [List.mem_cons, List.not_mem_nil, or_false] at he
    rcases he with rfl | rfl | rfl | rfl
    · exact ⟨['c'], 'h', by decide, rfl⟩
    · exact ⟨['s'], 'h', by decide, rfl⟩
    · exact ⟨[], 'x', by decide, rfl⟩
    · exact ⟨[], 'z', by decide, rfl⟩
  rw [heq]
  change IsSingular (dropEnd ['e', 's'].length (stem ++ (front ++ [last] ++ ['e', 's'])))
  rw [dropEnd_append_append, ← List.append_assoc]
  exact isSingular_of_last hlast

/-- A word in `s` keeps no other `s`, since a word in `ss` is left alone. -/
theorem isSingular_dropEnd_s {word : List Char} (h : endsIn word ["s"] = true)
    (hother : endsIn word ["ss", "us", "is"] = false) : IsSingular (dropEnd 1 word) := by
  obtain ⟨e, he, stem, rfl⟩ := endsIn_iff.mp h
  rw [List.mem_singleton.mp he] at hother ⊢
  change IsSingular (dropEnd ['s'].length (stem ++ ['s']))
  rw [dropEnd_append]
  intro hstem
  obtain ⟨e, he, front, rfl⟩ := endsIn_iff.mp hstem
  rw [List.mem_singleton.mp he] at hother
  have hdouble : endsIn (front ++ "s".toList ++ "s".toList) ["ss", "us", "is"] = true :=
    endsIn_iff.mpr ⟨"ss", by decide, front, by simp⟩
  rw [hdouble] at hother
  cases hother

/-- What the rules leave is a singular. -/
theorem isSingular_singular (word : List Char) : IsSingular (singular word) := by
  unfold singular
  split_ifs with hies hsses hes hs
  · exact isSingular_of_last (by decide)
  · exact isSingular_dropEnd_sses hsses
  · exact isSingular_dropEnd_es hes
  · rw [Bool.and_eq_true, Bool.not_eq_true'] at hs
    exact isSingular_dropEnd_s hs.1 hs.2
  · intro hplural
    rw [hplural, Bool.true_and, Bool.not_eq_true', Bool.not_eq_false] at hs
    exact hs

/-- The singular of a singular is the same word. -/
theorem singular_singular (word : List Char) : singular (singular word) = singular word :=
  (isSingular_singular word).singular_eq

/-- The singular of a singular is the same word. -/
theorem singularize_singularize (word : String) :
    singularize (singularize word) = singularize word := by
  rw [singularize, singularize, String.toList_ofList, singular_singular]

/-- A letter of a singular is one of the word, or the one that `ies` leaves. -/
theorem mem_singular {word : List Char} {c : Char} (h : c ∈ singular word) : c ∈ word ∨ c = 'y' := by
  unfold singular at h
  split_ifs at h with hies hsses hes hs
  · rcases List.mem_append.mp h with hstem | hlast
    · exact .inl (List.mem_of_mem_take hstem)
    · exact .inr (List.mem_singleton.mp hlast)
  · exact .inl (List.mem_of_mem_take h)
  · exact .inl (List.mem_of_mem_take h)
  · exact .inl (List.mem_of_mem_take h)
  · exact .inl h

/-! ## The last of a list -/

section

variable {α : Type} {f : α → α}

theorem mapLast_ne_nil {items : List α} (h : items ≠ []) : mapLast f items ≠ [] := by
  match items with
  | [] => exact absurd rfl h
  | [_] => exact List.cons_ne_nil _ _
  | _ :: _ :: _ => exact List.cons_ne_nil _ _

/-- What stands in a list after its last item was changed. -/
theorem mem_mapLast {items : List α} {b : α} (h : b ∈ mapLast f items) :
    b ∈ items ∨ ∃ a ∈ items, f a = b := by
  induction items with
  | nil => exact .inl h
  | cons a rest ih =>
      cases rest with
      | nil => exact .inr ⟨a, List.mem_singleton_self a, (List.mem_singleton.mp h).symm⟩
      | cons next rest =>
          rcases List.mem_cons.mp h with rfl | hrest
          · exact .inl List.mem_cons_self
          · refine (ih hrest).imp (List.mem_cons_of_mem _) ?_
            rintro ⟨other, hother, rfl⟩
            exact ⟨other, List.mem_cons_of_mem _ hother, rfl⟩

/-- Changing the last item twice is changing it once, where this holds of the items. -/
theorem mapLast_mapLast (hf : ∀ a, f (f a) = f a) (items : List α) :
    mapLast f (mapLast f items) = mapLast f items := by
  induction items with
  | nil => rfl
  | cons a rest ih =>
      cases rest with
      | nil => rw [mapLast, mapLast, hf]
      | cons next rest =>
          obtain ⟨first, more, heq⟩ :=
            List.exists_cons_of_ne_nil (mapLast_ne_nil (f := f) (List.cons_ne_nil next rest))
          rw [mapLast, heq, mapLast, ← heq, ih]

end

/-! ## Parts of names -/

/-- The parts between hyphens are those of the list of characters. -/
theorem hyphenParts_eq_splitOn (name : List Char) : hyphenParts name = name.splitOn '-' := by
  induction name with
  | nil => rfl
  | cons c rest ih =>
      obtain ⟨part, parts, heq⟩ := List.exists_cons_of_ne_nil (List.splitOn_ne_nil '-' rest)
      rw [hyphenParts, List.splitOn_cons_eq_if_modifyHead, ih, heq]
      by_cases hc : c = '-' <;> simp [hc]

/-- No part has a hyphen. -/
theorem notMem_of_mem_hyphenParts {name part : List Char} (h : part ∈ hyphenParts name) :
    '-' ∉ part := by
  induction name generalizing part with
  | nil =>
      rw [List.mem_singleton.mp h]
      exact List.not_mem_nil
  | cons c rest ih =>
      rw [hyphenParts] at h
      split_ifs at h with hc
      · rcases List.mem_cons.mp h with rfl | hrest
        · exact List.not_mem_nil
        · exact ih hrest
      · split at h
        · rw [List.mem_singleton.mp h]
          simpa using Ne.symm hc
        · rename_i first parts heq
          rw [heq] at ih
          rcases List.mem_cons.mp h with rfl | hrest
          · rw [List.mem_cons]
            rintro (rfl | hfirst)
            · exact hc rfl
            · exact ih List.mem_cons_self hfirst
          · exact ih (List.mem_cons_of_mem _ hrest)

/-- Parts without a hyphen are the parts of the text that they are joined to. -/
theorem hyphenParts_joinWith {parts : List (List Char)} (hparts : ∀ part ∈ parts, '-' ∉ part)
    (hne : parts ≠ []) : hyphenParts (Text.joinWith '-' parts) = parts := by
  rw [hyphenParts_eq_splitOn]
  exact List.splitOn_intercalate '-' hparts hne

/-! ## Nouns -/

/-- A name has a noun exactly when it has words behind a verb: these words, the last one in the
singular. -/
theorem nounOf_eq_some_iff {name noun : List Char} :
    nounOf name = some noun ↔
      ∃ verb words, hyphenParts name = verb :: words ∧ words ≠ [] ∧ String.ofList verb ∈ verbs ∧
        noun = Text.joinWith '-' (mapLast singular words) := by
  unfold nounOf
  constructor
  · intro h
    split at h
    · rename_i verb word words heq
      split_ifs at h with hverb
      · cases h
        exact ⟨verb, word :: words, heq, List.cons_ne_nil _ _, List.contains_iff_mem.mp hverb, rfl⟩
    · cases h
  · rintro ⟨verb, words, heq, hwords, hverb, rfl⟩
    obtain ⟨word, rest, rfl⟩ := List.exists_cons_of_ne_nil hwords
    rw [heq]
    exact if_pos (List.contains_iff_mem.mpr hverb)

/-- A noun behind a verb is that noun. -/
theorem nounOf_verb {name noun verb : List Char} (h : nounOf name = some noun)
    (hverb : String.ofList verb ∈ verbs) : nounOf (verb ++ '-' :: noun) = some noun := by
  obtain ⟨own, words, heq, hwords, -, rfl⟩ := nounOf_eq_some_iff.mp h
  have hnouns : ∀ part ∈ mapLast singular words, '-' ∉ part := by
    intro part hpart
    have hown : ∀ word ∈ words, '-' ∉ word := fun word hword =>
      notMem_of_mem_hyphenParts (heq ▸ List.mem_cons_of_mem _ hword)
    rcases mem_mapLast hpart with hword | ⟨word, hword, rfl⟩
    · exact hown part hword
    · intro hhyphen
      rcases mem_singular hhyphen with hin | hy
      · exact hown word hword hin
      · exact absurd hy (by decide)
  have hverbs : '-' ∉ verb := by
    have hall : ∀ v ∈ verbs, '-' ∉ v.toList := by decide
    simpa using hall _ hverb
  obtain ⟨first, rest, hcons⟩ :=
    List.exists_cons_of_ne_nil (mapLast_ne_nil (f := singular) hwords)
  refine nounOf_eq_some_iff.mpr ⟨verb, mapLast singular words, ?_, mapLast_ne_nil hwords, hverb, ?_⟩
  · have hjoin : verb ++ '-' :: Text.joinWith '-' (mapLast singular words) =
        Text.joinWith '-' (verb :: mapLast singular words) := by
      rw [hcons, Text.joinWith_cons_cons]
    rw [hjoin]
    refine hyphenParts_joinWith ?_ (List.cons_ne_nil _ _)
    rw [List.forall_mem_cons]
    exact ⟨hverbs, hnouns⟩
  · rw [mapLast_mapLast singular_singular]

/-- A noun behind a verb is that noun. -/
theorem noun?_verb {name noun verb : String} (h : noun? name = some noun) (hverb : verb ∈ verbs) :
    noun? (verb ++ "-" ++ noun) = some noun := by
  obtain ⟨letters, hletters, rfl⟩ := Option.map_eq_some_iff.mp h
  have hsame : (verb ++ "-" ++ String.ofList letters).toList = verb.toList ++ '-' :: letters := by
    simp
  rw [noun?, hsame, nounOf_verb hletters (by rwa [String.ofList_toList]), Option.map_some]

end ServiceShell.Resource
