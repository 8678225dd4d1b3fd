import ServiceShell.Proofs.Service.Resource
import ServiceShell.Proofs.Text.Hyphenated

/-!
# The form of nouns

The noun of an operation should be a hyphenated name again.  Its words are those of the operation
behind the verb, which are hyphenated, and only the last one is changed.  The rules for the singular
leave a letter of every word but one: the word `s` is taken for a plural of nothing.  So a noun has
the form of a name exactly when the operation does not end in this word.

Main results:

- Theorem `Resource.singular_eq_nil_iff`: the words of which the singular is empty.
- Theorem `Naming.joinWith_mem_hyphenatedNames_iff`: what is joined by hyphens is a name exactly
  when all parts are words.
- Theorem `Resource.exists_parts_of_noun?_kebab`: the words of an operation that has a noun.
- Theorem `Resource.nouns_are_names_iff`: which nouns are names, and what the others are.
-/

namespace ServiceShell

namespace Resource

open Naming

/-! ## Words without a singular -/

theorem dropEnd_eq_nil_iff {n : Nat} {word : List Char} :
    dropEnd n word = [] ↔ word.length ≤ n := by
  rw [dropEnd, ← List.length_eq_zero_iff, List.length_take]
  omega

/-- A word is as long as an ending that it has. -/
theorem length_le_of_endsIn {word : List Char} {endings : List String} {n : Nat}
    (h : endsIn word endings = true) (hn : ∀ e ∈ endings, n ≤ e.toList.length) :
    n ≤ word.length := by
  obtain ⟨e, he, stem, rfl⟩ := endsIn_iff.mp h
  rw [List.length_append]
  exact (hn e he).trans (Nat.le_add_left _ _)

/-- Every rule leaves a letter, but for the plural of nothing. -/
theorem singular_eq_nil_iff {word : List Char} : singular word = [] ↔ word = [] ∨ word = ['s'] := by
  constructor
  · intro h
    unfold singular at h
    split_ifs at h with hies hsses hes hs
    · exact absurd h (by simp)
    · have hlength := length_le_of_endsIn (n := 4) hsses (by decide)
      have hdropped := dropEnd_eq_nil_iff.mp h
      omega
    · have hlength := length_le_of_endsIn (n := 3) hes (by decide)
      have hdropped := dropEnd_eq_nil_iff.mp h
      omega
    · rw [Bool.and_eq_true] at hs
      obtain ⟨e, he, stem, rfl⟩ := endsIn_iff.mp hs.1
      rw [List.mem_singleton.mp he] at h ⊢
      have hdropped := dropEnd_eq_nil_iff.mp h
      have hstem : stem = [] := by simpa using hdropped
      rw [hstem]
      exact .inr rfl
    · exact .inl h
  · rintro (rfl | rfl) <;> rfl

/-- The singular of a word of small letters and digits is such a word too, if there is anything
left. -/
theorem singular_mem_smallWords_iff {word : List Char} (h : word ∈ smallWords) :
    singular word ∈ smallWords ↔ word ≠ ['s'] := by
  have hletters : ∀ c ∈ singular word, IsSmall c := by
    intro c hc
    rcases mem_singular hc with hword | rfl
    · exact h.2 c hword
    · decide
  have hempty : singular word = [] ↔ word = ['s'] := by
    rw [singular_eq_nil_iff, or_iff_right h.1]
  rw [← not_iff_not, not_not, ← hempty]
  constructor
  · intro hnot
    by_contra hne
    exact hnot ⟨hne, hletters⟩
  · intro hnil hmem
    exact hmem.1 hnil

theorem mapLast_concat {α : Type} (f : α → α) (front : List α) (last : α) :
    mapLast f (front ++ [last]) = front ++ [f last] := by
  induction front with
  | nil => rfl
  | cons a front ih =>
      obtain ⟨next, rest, heq⟩ := List.exists_cons_of_ne_nil (l := front ++ [last]) (by simp)
      rw [List.cons_append, heq, mapLast, ← heq, ih, List.cons_append]

end Resource

/-! ## Names and their words -/

namespace Naming

open Text

theorem nil_notMem_hyphenatedNames : [] ∉ hyphenatedNames := by
  intro h
  obtain ⟨w, hw, tail, -, heq⟩ := Language.mem_mul.mp h
  exact hw.1 (List.append_eq_nil_iff.mp heq).1

theorem hyphen_notMem_of_mem_smallWords {w : List Char} (hw : w ∈ smallWords) : '-' ∉ w :=
  fun h => absurd (hw.2 '-' h) (by decide)

/-- Parts without a hyphen make a name exactly when all of them are words. -/
theorem joinWith_mem_hyphenatedNames_iff {parts : List (List Char)}
    (hparts : ∀ part ∈ parts, '-' ∉ part) (hne : parts ≠ []) :
    joinWith '-' parts ∈ hyphenatedNames ↔ ∀ part ∈ parts, part ∈ smallWords := by
  constructor
  · intro h
    have hhyphenated : IsHyphenated (String.ofList (joinWith '-' parts)) :=
      isHyphenated_iff.mpr (.inr (by simpa using h))
    obtain ⟨words, hwords, heq⟩ := hhyphenated
    rw [String.toList_ofList] at heq
    have hwordsne : words ≠ [] := by
      rintro rfl
      rw [heq] at h
      exact nil_notMem_hyphenatedNames h
    have hsame : parts = words := by
      rw [← Resource.hyphenParts_joinWith hparts hne, heq]
      exact Resource.hyphenParts_joinWith
        (fun w hw => hyphen_notMem_of_mem_smallWords (hwords w hw)) hwordsne
    rw [hsame]
    exact hwords
  · intro h
    have hhyphenated : IsHyphenated (String.ofList (joinWith '-' parts)) :=
      ⟨parts, h, String.toList_ofList⟩
    have hnot : String.ofList (joinWith '-' parts) ≠ "" := by
      rw [ne_eq, String.ofList_eq_empty_iff, joinWith_eq_nil_iff fun w hw => (h w hw).1]
      exact hne
    simpa using (isHyphenated_iff.mp hhyphenated).resolve_left hnot

/-- The parts of a hyphenated form that is not empty are words. -/
theorem forall_hyphenParts_kebab {name : String} (h : kebab name ≠ "") :
    ∀ part ∈ Resource.hyphenParts (kebab name).toList, part ∈ smallWords := by
  obtain ⟨words, hwords, heq⟩ := isHyphenated_kebab name
  have hne : words ≠ [] := by
    rintro rfl
    exact h (String.toList_inj.mp heq)
  rw [heq, Resource.hyphenParts_joinWith
    (fun w hw => hyphen_notMem_of_mem_smallWords (hwords w hw)) hne]
  exact hwords

end Naming

namespace Text

/-- The last part stands behind the others and a separator. -/
theorem joinWith_concat (separator : Char) {parts : List (List Char)} (hne : parts ≠ [])
    (last : List Char) :
    joinWith separator (parts ++ [last]) = joinWith separator parts ++ separator :: last := by
  induction parts with
  | nil => exact absurd rfl hne
  | cons w parts ih =>
      cases parts with
      | nil => simp [joinWith_cons]
      | cons v parts =>
          have hrest := ih (List.cons_ne_nil v parts)
          rw [List.cons_append] at hrest
          rw [List.cons_append, List.cons_append, joinWith_cons_cons, joinWith_cons_cons, hrest,
            List.append_assoc, List.cons_append]

/-- A part that the last separator stands before is what the text ends in. -/
theorem suffix_append_cons_iff {separator : Char} {stem part last : List Char}
    (hpart : separator ∉ part) (hlast : separator ∉ last) :
    separator :: part <:+ stem ++ separator :: last ↔ last = part := by
  have hends : ∀ {front word : List Char}, separator ∉ word →
      (front ++ separator :: word).reverse.takeWhile (· ≠ separator) = word.reverse := by
    intro front word hword
    have hall : ∀ c ∈ word.reverse, decide (c ≠ separator) = true := by
      intro c hc
      rw [decide_eq_true_eq]
      rintro rfl
      exact hword (List.mem_reverse.mp hc)
    rw [List.reverse_append, List.reverse_cons, List.append_assoc,
      List.takeWhile_append_of_pos hall, List.singleton_append,
      List.takeWhile_cons_of_neg (by simp), List.append_nil]
  constructor
  · rintro ⟨front, heq⟩
    have hreversed :
        (front ++ separator :: part).reverse.takeWhile (· ≠ separator) = part.reverse := hends hpart
    rw [heq, hends hlast] at hreversed
    exact List.reverse_inj.mp hreversed
  · rintro rfl
    exact List.suffix_append _ _

end Text

/-! ## Nouns -/

namespace Resource

open Naming Text

/-- An operation that has a noun ends in words, which make the noun, the last one as a singular. -/
theorem exists_parts_of_noun?_kebab {name noun : String} (h : noun? (kebab name) = some noun) :
    ∃ front last, (∀ part ∈ front, part ∈ smallWords) ∧ last ∈ smallWords ∧
      ("-s".toList <:+ (kebab name).toList ↔ last = ['s']) ∧
        noun.toList = joinWith '-' (front ++ [singular last]) := by
  obtain ⟨letters, hletters, rfl⟩ := Option.map_eq_some_iff.mp h
  obtain ⟨verb, words, hparts, hwords, -, rfl⟩ := nounOf_eq_some_iff.mp hletters
  obtain ⟨front, last, rfl⟩ := (List.eq_nil_or_concat' words).resolve_left hwords
  have hnonempty : kebab name ≠ "" := by
    intro hempty
    rw [hempty] at hparts
    exact hwords (List.cons.inj hparts).2.symm
  have hsmall := forall_hyphenParts_kebab hnonempty
  rw [hparts, List.forall_mem_cons, List.forall_mem_append, List.forall_mem_singleton] at hsmall
  have hname : (kebab name).toList = joinWith '-' (verb :: front) ++ '-' :: last := by
    rw [← joinWith_concat '-' (List.cons_ne_nil verb front), List.cons_append, ← hparts,
      hyphenParts_eq_splitOn]
    exact (List.intercalate_splitOn '-').symm
  refine ⟨front, last, hsmall.2.1, hsmall.2.2, ?_, ?_⟩
  · rw [hname]
    exact suffix_append_cons_iff (by decide) (hyphen_notMem_of_mem_smallWords hsmall.2.2)
  · rw [String.toList_ofList, mapLast_concat]

/-- The noun of an operation is a name exactly when the operation does not end in the word `s`. -/
theorem noun_mem_hyphenatedNames_iff {name noun : String} (h : noun? (kebab name) = some noun) :
    noun.toList ∈ hyphenatedNames ↔ ¬ "-s".toList <:+ (kebab name).toList := by
  obtain ⟨front, last, hfront, hlast, hends, hnoun⟩ := exists_parts_of_noun?_kebab h
  have hhyphens : ∀ part ∈ front ++ [singular last], '-' ∉ part := by
    rw [List.forall_mem_append, List.forall_mem_singleton]
    refine ⟨fun part hpart => hyphen_notMem_of_mem_smallWords (hfront part hpart), fun hmem => ?_⟩
    rcases mem_singular hmem with hword | hy
    · exact hyphen_notMem_of_mem_smallWords hlast hword
    · exact absurd hy (by decide)
  rw [hnoun, joinWith_mem_hyphenatedNames_iff hhyphens (by simp), List.forall_mem_append,
    List.forall_mem_singleton, singular_mem_smallWords_iff hlast, hends]
  exact and_iff_right hfront

/-- A noun that is no name is empty, or it is a name with a hyphen behind it. -/
theorem noun_eq_empty_or_hyphen {name noun : String} (h : noun? (kebab name) = some noun)
    (hends : "-s".toList <:+ (kebab name).toList) :
    noun = "" ∨ ∃ front ∈ hyphenatedNames, noun.toList = front ++ ['-'] := by
  obtain ⟨front, last, hfront, -, hs, hnoun⟩ := exists_parts_of_noun?_kebab h
  have hsingular : singular last = [] := singular_eq_nil_iff.mpr (.inr (hs.mp hends))
  rw [hsingular] at hnoun
  by_cases hne : front = []
  · left
    rw [hne] at hnoun
    exact String.toList_inj.mp hnoun
  · refine .inr ⟨joinWith '-' front, ?_, hnoun.trans (joinWith_concat '-' hne [])⟩
    exact (joinWith_mem_hyphenatedNames_iff
      (fun part hpart => hyphen_notMem_of_mem_smallWords (hfront part hpart)) hne).mpr hfront

/-- What holds of the names of all resources holds of all nouns. -/
theorem forall_name_ofOperations_iff {p : String → Prop} {operations : List Operation} :
    (∀ r ∈ ofOperations operations, p r.name) ↔
      ∀ o ∈ operations, ∀ noun, noun? o.name = some noun → p noun := by
  rw [ofOperations_eq_grouped, grouped, List.forall_mem_map]
  simp only [List.mem_eraseDups, nouns, List.mem_filterMap]
  constructor
  · intro h o ho noun hnoun
    exact h noun ⟨o, ho, hnoun⟩
  · rintro h noun ⟨o, ho, hnoun⟩
    exact h o ho noun hnoun

/-- The noun of an operation is a hyphenated name exactly when the operation does not end in the
word `s`, of which the singular is empty.  Then the noun is empty, or a name with a hyphen behind
it.  So all resources have names exactly when no operation with a noun ends in this word. -/
theorem nouns_are_names_iff (operations : List Operation)
    (hnames : ∀ o ∈ operations, ∃ name, o.name = kebab name) :
    (∀ o ∈ operations, ∀ noun, noun? o.name = some noun →
      (noun.toList ∈ hyphenatedNames ↔ ¬ "-s".toList <:+ o.name.toList) ∧
      ("-s".toList <:+ o.name.toList →
        noun = "" ∨ ∃ front ∈ hyphenatedNames, noun.toList = front ++ ['-'])) ∧
    ((∀ r ∈ ofOperations operations, r.name.toList ∈ hyphenatedNames) ↔
      ∀ o ∈ operations, noun? o.name ≠ none → ¬ "-s".toList <:+ o.name.toList) := by
  have hnoun : ∀ o ∈ operations, ∀ noun, noun? o.name = some noun →
      (noun.toList ∈ hyphenatedNames ↔ ¬ "-s".toList <:+ o.name.toList) := by
    intro o ho noun h
    obtain ⟨name, hname⟩ := hnames o ho
    rw [hname] at h ⊢
    exact noun_mem_hyphenatedNames_iff h
  refine ⟨fun o ho noun h => ⟨hnoun o ho noun h, ?_⟩, ?_⟩
  · obtain ⟨name, hname⟩ := hnames o ho
    rw [hname] at h ⊢
    exact noun_eq_empty_or_hyphen h
  · rw [forall_name_ofOperations_iff (p := fun name => name.toList ∈ hyphenatedNames)]
    refine forall₂_congr fun o ho => ?_
    constructor
    · intro h hsome
      obtain ⟨noun, heq⟩ := Option.ne_none_iff_exists'.mp hsome
      exact (hnoun o ho noun heq).mp (h noun heq)
    · intro h noun heq
      refine (hnoun o ho noun heq).mpr (h ?_)
      rw [heq]
      exact Option.some_ne_none noun

/-- `ListS` has the empty noun, and so there is a resource without a name; `ListFooS` has one with a
hyphen at its end, and `ListKeys` a name. -/
theorem nouns_are_names_iff_listS :
    let operations : List Operation := [{ name := kebab "ListS", modelName := "ListS" },
      { name := kebab "ListFooS", modelName := "ListFooS" },
      { name := kebab "ListKeys", modelName := "ListKeys" }]
    (∀ o ∈ operations, ∃ name, o.name = kebab name) ∧
      ofOperations operations =
        [⟨"", ["ListS"]⟩, ⟨"foo-", ["ListFooS"]⟩, ⟨"key", ["ListKeys"]⟩] ∧
      "".toList ∉ hyphenatedNames ∧ "foo-".toList ∉ hyphenatedNames ∧
      (∃ front ∈ hyphenatedNames, "foo-".toList = front ++ ['-']) ∧
      "key".toList ∈ hyphenatedNames ∧
      ¬ ∀ r ∈ ofOperations operations, r.name.toList ∈ hyphenatedNames := by
  intro operations
  have hnames : ∀ o ∈ operations, ∃ name, o.name = kebab name := by
    intro o ho
    simp only [operations, List.mem_cons, List.not_mem_nil, or_false] at ho
    rcases ho with rfl | rfl | rfl <;> exact ⟨_, rfl⟩
  have hs : noun? (kebab "ListS") = some "" := by decide +kernel
  have hfoo : noun? (kebab "ListFooS") = some "foo-" := by decide +kernel
  have hkeys : noun? (kebab "ListKeys") = some "key" := by decide +kernel
  have hsends : "-s".toList <:+ (kebab "ListS").toList := by decide +kernel
  have hfooends : "-s".toList <:+ (kebab "ListFooS").toList := by decide +kernel
  have hkeysends : ¬ "-s".toList <:+ (kebab "ListKeys").toList := by decide +kernel
  obtain ⟨hnouns, hresources⟩ := nouns_are_names_iff operations hnames
  have hfirst := hnouns _ List.mem_cons_self _ hs
  have hsecond := hnouns _ (List.mem_cons_of_mem _ List.mem_cons_self) _ hfoo
  have hthird := hnouns _
    (List.mem_cons_of_mem _ (List.mem_cons_of_mem _ List.mem_cons_self)) _ hkeys
  refine ⟨hnames, by decide +kernel, fun h => hfirst.1.mp h hsends,
    fun h => hsecond.1.mp h hfooends, (hsecond.2 hfooends).resolve_left (by decide),
    hthird.1.mpr hkeysends, ?_⟩
  rw [hresources]
  intro h
  refine h _ List.mem_cons_self ?_ hsends
  rw [hs]
  exact Option.some_ne_none ""

end Resource

end ServiceShell
