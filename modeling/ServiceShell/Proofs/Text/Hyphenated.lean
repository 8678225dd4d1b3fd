import Mathlib.Computability.Language
import ServiceShell.Proofs.Text.Naming

/-!
# Names that are hyphenated already

A hyphenated form consists of words of small letters and digits with single hyphens between them.
The passes that make it have nothing left to do on such a name, so they may be applied any number of
times.

Main results:

- Definition `Naming.IsHyphenated`: words of small letters and digits, joined by hyphens.
- Theorem `Naming.isHyphenated_kebab`: every hyphenated form is of this kind.
- Theorem `Naming.kebab_of_isHyphenated`: a name of this kind is its own hyphenated form.
- Theorem `Naming.kebab_kebab`: so the hyphenated form of a hyphenated form is the same.
- Definition `Naming.hyphenatedNames`: the same names as a language, without the empty one.
- Theorem `Naming.kebab_fixes_hyphenated_names`: what is made and what stays as it is are the empty
  name and the names of this language.
-/

namespace ServiceShell

namespace Text

/-! ## Words that are joined -/

/-- Another way to write characters changes the separator and the words. -/
theorem map_joinWith (f : Char → Char) (separator : Char) (words : List (List Char)) :
    (joinWith separator words).map f = joinWith (f separator) (words.map (List.map f)) := by
  induction words with
  | nil => rfl
  | cons w rest ih =>
      cases rest with
      | nil => simp [joinWith]
      | cons v rest =>
          rw [joinWith_cons_cons, List.map_append, List.map_cons, ih, List.map_cons, List.map_cons,
            List.map_cons, joinWith_cons_cons]

/-- The parts behind the first one have the separator before them. -/
theorem joinWith_cons (separator : Char) (w : List Char) (rest : List (List Char)) :
    joinWith separator (w :: rest) = w ++ (rest.map (separator :: ·)).flatten := by
  induction rest generalizing w with
  | nil => simp [joinWith]
  | cons v rest ih =>
      rw [joinWith_cons_cons, ih, List.map_cons, List.flatten_cons, List.cons_append]

variable {wanted : Char → Bool} {w pending rest : List Char}

/-- Wanted characters go on with the run. -/
theorem runsFrom_append (hw : ∀ c ∈ w, wanted c = true) (pending rest : List Char) :
    runsFrom wanted pending (w ++ rest) = runsFrom wanted (w.reverse ++ pending) rest := by
  induction w generalizing pending with
  | nil => rfl
  | cons c w ih =>
      rw [List.forall_mem_cons] at hw
      rw [List.cons_append, runsFrom, if_pos hw.1, ih hw.2, List.reverse_cons, List.append_assoc,
        List.singleton_append]

/-- Words that were joined by a character that stands in none of them are found again. -/
theorem runs_joinWith {separator : Char} {words : List (List Char)}
    (hseparator : wanted separator = false)
    (hwords : ∀ w ∈ words, w ≠ [] ∧ ∀ c ∈ w, wanted c = true) :
    runs wanted (joinWith separator words) = words := by
  unfold runs
  induction words with
  | nil => rfl
  | cons w rest ih =>
      rw [List.forall_mem_cons] at hwords
      obtain ⟨⟨hne, hw⟩, hrest⟩ := hwords
      have hreverse : ¬ w.reverse.isEmpty = true := by simpa using hne
      cases rest with
      | nil =>
          have hjoin : joinWith separator [w] = w ++ [] := by simp [joinWith]
          rw [hjoin, runsFrom_append hw, List.append_nil, runsFrom, if_neg hreverse,
            List.reverse_reverse]
      | cons v rest =>
          rw [joinWith_cons_cons, runsFrom_append hw, List.append_nil, runsFrom,
            if_neg (by simp [hseparator]), if_neg hreverse, List.reverse_reverse, ih hrest]

end Text

namespace Naming

open Text

/-! ## Words -/

/-- Whether a character may stand in a word of a hyphenated form. -/
def IsSmall (c : Char) : Prop := c.isLower = true ∨ c.isDigit = true

instance (c : Char) : Decidable (IsSmall c) := inferInstanceAs (Decidable (_ ∨ _))

/-- Whether a name consists of words of small letters and digits that are joined by hyphens. -/
def IsHyphenated (name : String) : Prop :=
  ∃ words : List (List Char), (∀ w ∈ words, w ≠ [] ∧ ∀ c ∈ w, IsSmall c) ∧
    name.toList = joinWith '-' words

/-- Lower case makes a letter or a digit a small one. -/
theorem isSmall_toLower {c : Char} (h : c.isAlphanum = true) : IsSmall c.toLower :=
  of_isAlphanum (p := fun c => c.toLower.isLower = true ∨ c.toLower.isDigit = true)
    (by decide +kernel) h

section

variable {c : Char}

theorem IsSmall.isAlphanum (h : IsSmall c) : c.isAlphanum = true := by
  rw [Char.isAlphanum, Bool.or_eq_true]
  refine h.imp_left fun hlower => ?_
  show (c.isUpper || c.isLower) = true
  rw [hlower, Bool.or_true]

/-- A small letter or a digit is no capital, and is its own lower case. -/
theorem IsSmall.toLower_eq (h : IsSmall c) : c.isUpper = false ∧ c.toLower = c :=
  of_isAlphanum (p := fun c => c.isLower = true ∨ c.isDigit = true →
    c.isUpper = false ∧ c.toLower = c) (by decide +kernel) h.isAlphanum h

end

/-! ## Hyphenated forms -/

/-- Every hyphenated form consists of words that are joined by hyphens. -/
theorem isHyphenated_kebab (name : String) : IsHyphenated (kebab name) := by
  refine ⟨(runs Char.isAlphanum (breakAcronyms (breakHumps name.toList))).map
    (List.map Char.toLower), ?_, ?_⟩
  · simp only [List.forall_mem_map]
    intro w hw
    obtain ⟨hne, hwanted⟩ := mem_of_mem_runs hw
    exact ⟨by simpa using hne, fun c hc => isSmall_toLower (hwanted c hc)⟩
  · rw [kebab, joinWords, String.toList_ofList, map_joinWith]
    rfl

/-- No break is put before what is no capital. -/
theorem breakHumps_of_forall {cs : List Char} (h : ∀ c ∈ cs, c.isUpper = false) :
    breakHumps cs = cs := by
  fun_induction breakHumps cs with
  | case1 c d rest hbreak ih => simp [h d (by simp)] at hbreak
  | case2 c d rest _ ih => rw [ih fun e he => h e (List.mem_cons_of_mem _ he)]
  | case3 => rfl

/-- Without capitals there is no acronym to break. -/
theorem breakAcronyms_of_forall {cs : List Char} (h : ∀ c ∈ cs, c.isUpper = false) :
    breakAcronyms cs = cs := by
  unfold breakAcronyms
  induction cs with
  | nil => rfl
  | cons c rest ih =>
      rw [List.forall_mem_cons] at h
      rw [breakAcronymsFrom, if_neg (by simp [h.1]), ih h.2]
      rfl

/-- A name of words that are joined by hyphens is its own hyphenated form. -/
theorem kebab_of_isHyphenated {name : String} (h : IsHyphenated name) : kebab name = name := by
  obtain ⟨words, hwords, hname⟩ := h
  have hsmall : ∀ c ∈ name.toList, c = '-' ∨ IsSmall c := by
    intro c hc
    rw [hname] at hc
    refine (mem_joinWith hc).imp_right ?_
    rintro ⟨w, hw, hcw⟩
    exact (hwords w hw).2 c hcw
  have hupper : ∀ c ∈ name.toList, c.isUpper = false := by
    intro c hc
    rcases hsmall c hc with rfl | hc
    · decide
    · exact hc.toLower_eq.1
  have hlower : ∀ c ∈ name.toList, c.toLower = c := by
    intro c hc
    rcases hsmall c hc with rfl | hc
    · decide
    · exact hc.toLower_eq.2
  have hruns : runs Char.isAlphanum name.toList = words := by
    rw [hname]
    exact runs_joinWith (by decide) fun w hw =>
      ⟨(hwords w hw).1, fun c hc => ((hwords w hw).2 c hc).isAlphanum⟩
  rw [kebab, joinWords, breakHumps_of_forall hupper, breakAcronyms_of_forall hupper, hruns,
    ← hname, List.map_congr_left hlower, List.map_id', String.ofList_toList]

/-- The hyphenated form of a hyphenated form is the same. -/
theorem kebab_kebab (name : String) : kebab (kebab name) = kebab name :=
  kebab_of_isHyphenated (isHyphenated_kebab name)

/-! ## The language of hyphenated forms -/

open scoped Computability

/-- The words of small letters and digits: `[a-z0-9]+`. -/
def smallWords : Language Char := {w | w ≠ [] ∧ ∀ c ∈ w, IsSmall c}

/-- The names of such words with single hyphens between them: `[a-z0-9]+(-[a-z0-9]+)*`. -/
def hyphenatedNames : Language Char := smallWords * ({['-']} * smallWords)∗

/-- The words of a name in the language are what stands before and behind its hyphens. -/
theorem isHyphenated_iff {name : String} :
    IsHyphenated name ↔ name = "" ∨ name.toList ∈ hyphenatedNames := by
  constructor
  · rintro ⟨words, hwords, hname⟩
    cases words with
    | nil => exact .inl (String.toList_inj.mp hname)
    | cons w rest =>
        rw [List.forall_mem_cons] at hwords
        refine .inr (Language.mem_mul.mpr ⟨w, hwords.1, (rest.map ('-' :: ·)).flatten, ?_, ?_⟩)
        · refine Language.join_mem_kstar (List.forall_mem_map.mpr fun v hv => ?_)
          exact Language.append_mem_mul (Set.mem_singleton ['-']) (hwords.2 v hv)
        · rw [hname, joinWith_cons]
  · rintro (rfl | hname)
    · exact ⟨[], List.forall_mem_nil _, rfl⟩
    · obtain ⟨w, hw, tail, htail, heq⟩ := Language.mem_mul.mp hname
      obtain ⟨parts, rfl, hparts⟩ := Language.mem_kstar.mp htail
      have hpart : ∀ part ∈ parts, part = '-' :: part.tail ∧ part.tail ∈ smallWords := by
        intro part hpart
        obtain ⟨_, rfl, v, hv, rfl⟩ := Language.mem_mul.mp (hparts part hpart)
        exact ⟨rfl, hv⟩
      refine ⟨w :: parts.map List.tail, ?_, ?_⟩
      · exact List.forall_mem_cons.mpr
          ⟨hw, List.forall_mem_map.mpr fun part h => (hpart part h).2⟩
      · rw [joinWith_cons, List.map_map, ← heq]
        congr 2
        exact (List.map_id parts).symm.trans (List.map_congr_left fun part h => (hpart part h).1)

/-- A word is a name of the language. -/
theorem mem_hyphenatedNames_of_mem_smallWords {w : List Char} (hw : w ∈ smallWords) :
    w ∈ hyphenatedNames :=
  Language.mem_mul.mpr ⟨w, hw, [], Language.nil_mem_kstar _, List.append_nil w⟩

/-- A hyphen between two names of the language makes a name of the language. -/
theorem append_mem_hyphenatedNames {s t : List Char} (hs : s ∈ hyphenatedNames)
    (ht : t ∈ hyphenatedNames) : s ++ '-' :: t ∈ hyphenatedNames := by
  obtain ⟨w, hw, first, hfirst, rfl⟩ := Language.mem_mul.mp hs
  obtain ⟨v, hv, second, hsecond, rfl⟩ := Language.mem_mul.mp ht
  have hmiddle : '-' :: v ∈ ({['-']} * smallWords : Language Char) :=
    Language.append_mem_mul (Set.mem_singleton ['-']) hv
  obtain ⟨before, rfl, hbefore⟩ := Language.mem_kstar.mp hfirst
  obtain ⟨behind, rfl, hbehind⟩ := Language.mem_kstar.mp hsecond
  refine Language.mem_mul.mpr
    ⟨w, hw, (before ++ ('-' :: v) :: behind).flatten, Language.join_mem_kstar ?_, by simp⟩
  simp only [List.mem_append, List.mem_cons]
  rintro part (hpart | rfl | hpart)
  · exact hbefore part hpart
  · exact hmiddle
  · exact hbehind part hpart

/-- Names of the language with hyphens between them make a name of the language. -/
theorem intercalate_mem_hyphenatedNames {names : List String} (hne : names ≠ [])
    (h : ∀ name ∈ names, name.toList ∈ hyphenatedNames) :
    ("-".intercalate names).toList ∈ hyphenatedNames := by
  induction names with
  | nil => exact absurd rfl hne
  | cons name rest ih =>
      rw [List.forall_mem_cons] at h
      cases rest with
      | nil => simpa using h.1
      | cons next rest =>
          have htext : ("-".intercalate (name :: next :: rest)).toList =
              name.toList ++ '-' :: ("-".intercalate (next :: rest)).toList := by
            simp [String.toList_intercalate]
          rw [htext]
          exact append_mem_hyphenatedNames h.1 (ih (List.cons_ne_nil _ _) h.2)

/-- A hyphenated form that is not empty is a name of the language. -/
theorem kebab_mem_hyphenatedNames {name : String} (h : kebab name ≠ "") :
    (kebab name).toList ∈ hyphenatedNames :=
  (isHyphenated_iff.mp (isHyphenated_kebab name)).resolve_left h

/-- Each hyphenated form is empty or a name of the language, and the names that are their own
hyphenated forms are these. So the form of a form is the same. -/
theorem kebab_fixes_hyphenated_names (name : String) :
    (kebab name = "" ∨ (kebab name).toList ∈ hyphenatedNames) ∧
      (kebab name = name ↔ name = "" ∨ name.toList ∈ hyphenatedNames) ∧
      kebab (kebab name) = kebab name := by
  refine ⟨isHyphenated_iff.mp (isHyphenated_kebab name), ?_, kebab_kebab name⟩
  rw [← isHyphenated_iff]
  constructor
  · intro heq
    rw [← heq]
    exact isHyphenated_kebab name
  · exact kebab_of_isHyphenated

end Naming

end ServiceShell
