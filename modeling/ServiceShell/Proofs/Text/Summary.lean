import Mathlib.Data.List.Chain
import Mathlib.Data.List.DropRight
import ServiceShell.Proofs.Text.OneLine

/-!
# Summaries

A line of documentation is the first sentence of a marked-up text, cut if it is too long.  Whatever
the references in the text stand for, it is one line of limited length: words with single spaces
between them.

Main results:

- Definition `Text.IsTidy`: words with single spaces between them, and nothing around them.
- Theorem `Text.isTidy_collapse`: so is every text of which the white space was collapsed.
- Definition `Text.IsFirstSentence`: the shortest beginning that ends as a sentence, or everything.
- Theorem `Text.isFirstSentence_firstSentence`: this is what is found in a tidy text.
- Definition `Text.IsSummary`: what is expected of the line that is made from a plain text.
- Theorem `Text.summaries_are_short_lines`: all summaries are of this kind.
-/

namespace ServiceShell.Text

/-! ## Words with single spaces -/

/-- Whether a text consists of words with single spaces between them: its only blank characters are
spaces, no two of them are neighbours, and none stands at an end. -/
structure IsTidy (cs : List Char) : Prop where
  /-- A blank character is a space. -/
  eq_space : ∀ c ∈ cs, isBlank c = true → c = ' '
  /-- Behind a blank character there is none. -/
  single : cs.IsChain fun c d => isBlank c = true → isBlank d = false
  /-- The first character is not blank. -/
  head : ∀ c ∈ cs.head?, isBlank c = false
  /-- The last character is not blank. -/
  last : ∀ c ∈ cs.getLast?, isBlank c = false

section

variable {s t cs front : List Char}

theorem isTidy_nil : IsTidy [] := ⟨by simp, .nil, by simp, by simp⟩

/-- A word is tidy. -/
theorem isTidy_of_forall (h : ∀ c ∈ s, isBlank c = false) : IsTidy s where
  eq_space c hc hblank := absurd (hblank.symm.trans (h c hc)) (by decide)
  single := List.Pairwise.isChain <|
    List.pairwise_of_forall_mem_list fun _ _ d hd (_ : isBlank _ = true) => h d hd
  head c hc := h c (List.mem_of_mem_head? hc)
  last c hc := h c (List.mem_of_mem_getLast? hc)

theorem isTidy_dots : IsTidy ['.', '.', '.'] := by
  refine isTidy_of_forall fun c hc => ?_
  obtain rfl : c = '.' := by simpa using hc
  decide

/-- A tidy text may go on with another one. -/
theorem IsTidy.append (hs : IsTidy s) (ht : IsTidy t) : IsTidy (s ++ t) where
  eq_space c hc := (List.mem_append.mp hc).elim (hs.eq_space c) (ht.eq_space c)
  single := hs.single.append ht.single fun _ _ d hd _ => ht.head d hd
  head c hc := by
    rw [List.head?_append, Option.mem_def, Option.or_eq_some_iff] at hc
    exact hc.elim (hs.head c) fun h => ht.head c h.2
  last c hc := by
    rw [List.getLast?_append, Option.mem_def, Option.or_eq_some_iff] at hc
    exact hc.elim (ht.last c) fun h => hs.last c h.2

/-- A space may stand between two tidy texts. -/
theorem IsTidy.append_space (hs : IsTidy s) (ht : IsTidy t) (hsne : s ≠ []) (htne : t ≠ []) :
    IsTidy (s ++ ' ' :: t) where
  eq_space c hc hblank := by
    rcases List.mem_append.mp hc with hmem | hmem
    · exact hs.eq_space c hmem hblank
    · exact (List.mem_cons.mp hmem).elim id fun hrest => ht.eq_space c hrest hblank
  single := by
    refine hs.single.append (List.isChain_cons.mpr ⟨fun d hd _ => ht.head d hd, ht.single⟩) ?_
    intro c hc d _ hblank
    exact absurd (hblank.symm.trans (hs.last c hc)) (by decide)
  head c hc := by
    rw [List.head?_append_of_ne_nil _ hsne] at hc
    exact hs.head c hc
  last c hc := by
    rw [List.getLast?_append_of_ne_nil _ (List.cons_ne_nil _ _), List.getLast?_cons_of_ne_nil htne]
      at hc
    exact ht.last c hc

/-- Words that are joined by spaces are tidy. -/
theorem isTidy_joinWith {words : List (List Char)}
    (h : ∀ w ∈ words, w ≠ [] ∧ ∀ c ∈ w, isBlank c = false) : IsTidy (joinWith ' ' words) := by
  induction words with
  | nil => exact isTidy_nil
  | cons w words ih =>
      rw [List.forall_mem_cons] at h
      obtain ⟨⟨hne, hw⟩, hwords⟩ := h
      cases words with
      | nil => simpa [joinWith] using isTidy_of_forall hw
      | cons v words =>
          rw [joinWith_cons_cons]
          refine (isTidy_of_forall hw).append_space (ih hwords) hne fun hnil => ?_
          exact List.cons_ne_nil v words
            ((joinWith_eq_nil_iff fun u hu => (hwords u hu).1).mp hnil)

/-- A text of which the white space was collapsed is tidy. -/
theorem isTidy_collapse (cs : List Char) : IsTidy (collapse cs) := by
  refine isTidy_joinWith fun w hw => ?_
  obtain ⟨hne, hwanted⟩ := mem_of_mem_runs hw
  exact ⟨hne, fun c hc => by simpa using hwanted c hc⟩

/-! ## Trimmed ends -/

/-- A text begins with what is left of it once its end is trimmed. -/
theorem trimRight_isPrefix (cs : List Char) : trimRight cs <+: cs :=
  List.rdropWhile_prefix isBlank cs

/-- A beginning of a tidy text is tidy once its end is trimmed. -/
theorem IsTidy.trimRight (h : IsTidy cs) (hfront : front <+: cs) : IsTidy (trimRight front) := by
  obtain ⟨rest, rfl⟩ := (trimRight_isPrefix front).trans hfront
  refine ⟨fun c hc => h.eq_space c (List.mem_append_left rest hc), h.single.left_of_append,
    fun c hc => ?_, fun c hc => ?_⟩
  · refine h.head c ?_
    rw [List.head?_append, Option.mem_def, Option.or_eq_some_iff]
    exact .inl hc
  · obtain ⟨hne, hlast⟩ := List.mem_getLast?_eq_getLast hc
    rw [hlast]
    exact eq_false_of_ne_true (List.rdropWhile_last_not isBlank front hne)

/-- One character at most is trimmed off the end of a beginning of a tidy text. -/
theorem IsTidy.length_le_trimRight (h : IsTidy cs) (hfront : front <+: cs) :
    front.length ≤ (Text.trimRight front).length + 1 := by
  rcases List.eq_nil_or_concat' front with rfl | ⟨shorter, last, rfl⟩
  · exact Nat.zero_le _
  · obtain ⟨rest, rfl⟩ := hfront
    change (shorter ++ [last]).length ≤ (List.rdropWhile isBlank (shorter ++ [last])).length + 1
    rw [List.rdropWhile_concat]
    split
    · rename_i hblank
      -- The character before a blank one is not blank, so nothing else goes.
      have hchain := List.isChain_append.mp h.single.left_of_append
      have hkept : List.rdropWhile isBlank shorter = shorter := by
        rw [List.rdropWhile_eq_self_iff]
        intro hne hlast
        have hnot := hchain.2.2 _ (List.getLast_mem_getLast? hne) last rfl hlast
        rw [hblank] at hnot
        cases hnot
      rw [hkept, List.length_append, List.length_singleton]
    · exact Nat.le_succ _

/-! ## Sentences -/

/-- Whether a beginning of a text ends as a sentence does: in a mark that a space follows. -/
def IsSentence (cs front : List Char) : Prop :=
  ∃ body mark rest, mark ∈ ['.', '!', '?'] ∧ front = body ++ [mark] ∧ cs = front ++ ' ' :: rest

/-- The first sentence of a text: its shortest beginning that ends as a sentence does, or all of
it. -/
inductive IsFirstSentence (cs : List Char) : List Char → Prop
  | ended {front : List Char} (h : IsSentence cs front)
      (hshortest : ∀ other, IsSentence cs other → front.length ≤ other.length) :
      IsFirstSentence cs front
  | whole (h : ∀ front, ¬ IsSentence cs front) : IsFirstSentence cs cs

theorem not_isSentence_nil (front : List Char) : ¬ IsSentence [] front := by
  rintro ⟨body, mark, rest, -, -, heq⟩
  exact absurd heq (by simp)

/-- A sentence is over behind the first character, or it goes on. -/
theorem isSentence_cons_iff {c : Char} {rest front : List Char} :
    IsSentence (c :: rest) front ↔
      (front = [c] ∧ c ∈ ['.', '!', '?'] ∧ rest.head? = some ' ') ∨
        ∃ more, front = c :: more ∧ IsSentence rest more := by
  constructor
  · rintro ⟨body, mark, behind, hmark, rfl, heq⟩
    cases body with
    | nil =>
        obtain ⟨rfl, rfl⟩ := List.cons.inj heq
        exact .inl ⟨rfl, hmark, rfl⟩
    | cons first body =>
        obtain ⟨rfl, rfl⟩ := List.cons.inj heq
        exact .inr ⟨body ++ [mark], rfl, body, mark, behind, hmark, rfl, rfl⟩
  · rintro (⟨rfl, hmark, hspace⟩ | ⟨more, rfl, body, mark, behind, hmark, rfl, rfl⟩)
    · obtain ⟨behind, rfl⟩ := List.head?_eq_some_iff.mp hspace
      exact ⟨[], c, behind, hmark, rfl, rfl⟩
    · exact ⟨c :: body, mark, behind, hmark, rfl, rfl⟩

/-- A first sentence goes on with what is before it, if that is no sentence. -/
theorem IsFirstSentence.cons {c : Char} {rest sentence : List Char}
    (h : IsFirstSentence rest sentence) (hnot : ¬ IsSentence (c :: rest) [c]) :
    IsFirstSentence (c :: rest) (c :: sentence) := by
  have hmore : ∀ front, IsSentence (c :: rest) front →
      ∃ more, front = c :: more ∧ IsSentence rest more := by
    intro front hfront
    rcases isSentence_cons_iff.mp hfront with ⟨rfl, -⟩ | hmore
    · exact absurd hfront hnot
    · exact hmore
  cases h with
  | ended h hshortest =>
      refine .ended (isSentence_cons_iff.mpr (.inr ⟨sentence, rfl, h⟩)) fun other hother => ?_
      obtain ⟨more, rfl, hrest⟩ := hmore other hother
      exact Nat.succ_le_succ (hshortest more hrest)
  | whole h =>
      refine .whole fun front hfront => ?_
      obtain ⟨more, -, hrest⟩ := hmore front hfront
      exact h more hrest

/-- What is found in a text without blank characters but spaces is its first sentence. -/
theorem isFirstSentence_firstSentence (h : ∀ c ∈ cs, isBlank c = true → c = ' ') :
    IsFirstSentence cs (firstSentence cs) := by
  fun_induction firstSentence cs with
  | case1 c d rest hends =>
      rw [Bool.and_eq_true] at hends
      have hmark : c ∈ ['.', '!', '?'] := by simpa [endsSentence, or_assoc] using hends.1
      have hspace : d = ' ' := h d (by simp) hends.2
      refine .ended (isSentence_cons_iff.mpr (.inl ⟨rfl, hmark, by rw [hspace]; rfl⟩)) ?_
      rintro other ⟨body, mark, _, -, rfl, -⟩
      simp
  | case2 c d rest hends ih =>
      refine (ih fun e he => h e (List.mem_cons_of_mem c he)).cons fun hsentence => hends ?_
      rcases isSentence_cons_iff.mp hsentence with ⟨-, hmark, hspace⟩ | ⟨more, hmore, hrest⟩
      · obtain rfl : d = ' ' := Option.some.inj hspace
        have hmarked : endsSentence c = true := by simpa [endsSentence, or_assoc] using hmark
        rw [hmarked]
        rfl
      · obtain ⟨body, mark, _, -, rfl, -⟩ := hrest
        simp at hmore
  | case3 cs hshort =>
      refine .whole fun front hfront => ?_
      cases cs with
      | nil => exact not_isSentence_nil front hfront
      | cons c rest =>
          have hrest : rest = [] := by
            cases rest with
            | nil => rfl
            | cons d rest => exact (hshort c d rest rfl).elim
          rw [hrest] at hfront
          rcases isSentence_cons_iff.mp hfront with ⟨-, -, hspace⟩ | ⟨more, -, hmore⟩
          · cases hspace
          · exact not_isSentence_nil more hmore

/-- A first sentence of a text is empty only if the text is. -/
theorem IsFirstSentence.eq_nil_iff {sentence : List Char} (h : IsFirstSentence cs sentence) :
    sentence = [] ↔ cs = [] := by
  cases h with
  | ended h =>
      obtain ⟨_, _, _, -, rfl, rfl⟩ := h
      simp
  | whole => exact Iff.rfl

/-- The first sentence of a tidy text is tidy: no blank character is a mark. -/
theorem IsTidy.of_isFirstSentence {sentence : List Char} (h : IsTidy cs)
    (hsentence : IsFirstSentence cs sentence) : IsTidy sentence := by
  cases hsentence with
  | whole => exact h
  | ended hends =>
      obtain ⟨body, mark, rest, hmark, rfl, rfl⟩ := hends
      have hkept : Text.trimRight (body ++ [mark]) = body ++ [mark] := by
        have hnot : ¬ isBlank mark = true := by
          simp only [List.mem_cons, List.not_mem_nil, or_false] at hmark
          rcases hmark with rfl | rfl | rfl <;> decide
        exact List.rdropWhile_concat_neg isBlank body mark hnot
      rw [← hkept]
      exact h.trimRight (List.prefix_append _ _)

/-! ## Summaries -/

/-- What is expected of the line that is made from a plain text, for a limit to its length. -/
structure IsSummary (limit : Int) (plain line : List Char) : Prop where
  /-- It is no longer than the limit. -/
  length_le : line.length ≤ limit
  /-- It has single spaces between its words, and no other blank character. -/
  tidy : IsTidy line
  /-- It is the first sentence, or a beginning of it with three dots, to which no more than one
  other character could be added. -/
  exists_sentence : ∃ sentence, IsFirstSentence plain sentence ∧
    (sentence.length ≤ limit ∧ line = sentence ∨
      limit < sentence.length ∧ ∃ front, front <+: sentence ∧ limit ≤ front.length + 4 ∧
        line = front ++ ['.', '.', '.'])
  /-- It is empty only if the plain text is. -/
  eq_nil_iff : line = [] ↔ plain = []

/-- What is cut off a tidy sentence leaves it tidy. -/
theorem isSummary_truncate {limit : Int} (hlimit : 3 ≤ limit) {plain sentence : List Char}
    (hplain : IsTidy plain) (hsentence : IsFirstSentence plain sentence) :
    IsSummary limit plain (truncate limit sentence) := by
  have htidy := hplain.of_isFirstSentence hsentence
  obtain ⟨n, hn⟩ := Int.eq_ofNat_of_zero_le (Int.sub_nonneg_of_le hlimit)
  unfold truncate
  rw [hn]
  split
  · rename_i hlong
    have hfront : sentence.take n <+: sentence := List.take_prefix n sentence
    have htaken : (sentence.take n).length = n := by
      rw [List.length_take]
      omega
    have hle := (trimRight_isPrefix (sentence.take n)).length_le
    have hge := htidy.length_le_trimRight hfront
    refine ⟨?_, (htidy.trimRight hfront).append isTidy_dots,
      ⟨sentence, hsentence,
        .inr ⟨hlong, trimRight (sentence.take n), (trimRight_isPrefix _).trans hfront, ?_, rfl⟩⟩,
      ?_⟩
    · rw [List.length_append]
      change ((trimRight (sentence.take n)).length + 3 : Int) ≤ limit
      omega
    · omega
    · refine iff_of_false (by simp) fun hnil => ?_
      rw [hsentence.eq_nil_iff.mpr hnil, List.length_nil] at hlong
      omega
  · rename_i hshort
    exact ⟨Int.not_lt.mp hshort, htidy, ⟨sentence, hsentence, .inl ⟨Int.not_lt.mp hshort, rfl⟩⟩,
      hsentence.eq_nil_iff⟩

/-- A summary is the first sentence of the plain text, which is cut; a limit of no less than zero
cuts nothing off the empty text. -/
theorem summaryWith_eq {limit : Int} (hlimit : 0 ≤ limit) (decode : List Char → List Char) :
    summaryWith decode limit cs = truncate limit (firstSentence (plainWith decode cs)) := by
  unfold summaryWith
  split
  · rename_i hempty
    rw [hempty]
    exact (if_neg (Int.not_lt.mpr hlimit)).symm
  · rename_i hcons
    rw [hcons]

/-- Whatever the references of a marked-up text stand for, its summary is one line of at most
`limit` characters: the first sentence of the plain text, or a beginning of it with three dots. -/
theorem summaries_are_short_lines {limit : Int} (hlimit : 3 ≤ limit) :
    (∀ decode text, IsSummary limit (plainWith decode text) (summaryWith decode limit text)) ∧
    ∀ text, IsSummary limit (plain text).toList (summary text limit).toList := by
  have hall : ∀ decode text,
      IsSummary limit (plainWith decode text) (summaryWith decode limit text) := by
    intro decode text
    have htidy : IsTidy (plainWith decode text) := isTidy_collapse _
    rw [summaryWith_eq (by omega)]
    exact isSummary_truncate hlimit htidy (isFirstSentence_firstSentence htidy.eq_space)
  refine ⟨hall, fun text => ?_⟩
  rw [plain, summary, String.toList_ofList, String.toList_ofList]
  exact hall _ _

/-- Tags and a reference for a line break become spaces, and the blank one that the cut would leave
at the end is dropped. -/
theorem summaries_are_short_lines_keys :
    3 ≤ (9 : Int) ∧
      summaryWith (List.map fun c => if c = '&' then '\n' else c) 9
        "<p>Lists&all <b>keys</b>. Then more.</p>".toList = "Lists...".toList ∧
      IsSummary 9 "Lists all keys . Then more.".toList "Lists...".toList ∧
      IsSummary 9 (plain "Lists&#10;all keys.").toList
        (summary "Lists&#10;all keys." 9).toList := by
  have hplain : plainWith (List.map fun c => if c = '&' then '\n' else c)
      "<p>Lists&all <b>keys</b>. Then more.</p>".toList =
        "Lists all keys . Then more.".toList := by decide +kernel
  have hline : summaryWith (List.map fun c => if c = '&' then '\n' else c) 9
      "<p>Lists&all <b>keys</b>. Then more.</p>".toList = "Lists...".toList := by decide +kernel
  have hlimit : 3 ≤ (9 : Int) := by decide
  obtain ⟨hall, hreferences⟩ := summaries_are_short_lines hlimit
  have hsummary := hall (List.map fun c => if c = '&' then '\n' else c)
    "<p>Lists&all <b>keys</b>. Then more.</p>".toList
  rw [hplain, hline] at hsummary
  exact ⟨hlimit, hline, hsummary, hreferences _⟩

end

end ServiceShell.Text
