import ServiceShell.Proofs.Text.Hyphenated

/-!
# The words of a name

The hyphenated form of a name is made in three passes, each over what the one before it left.  They
come to one rule, which looks only at neighbours: the runs of letters and digits are taken one by
one, and a run is cut where a capital follows a small letter or a digit, and before the last capital
of an acronym that a small letter follows.

Main results:

- Definition `Naming.IsBreak`: where a run of letters and digits is cut.
- Definition `Naming.words`: the words of a name, found in one pass.
- Theorem `Text.runs_eq_filter_splitOnP`: runs are what is left between unwanted characters.
- Theorem `Naming.breakAcronyms_breakHumps`: the passes put a hyphen at each break, and nowhere
  else.
- Theorem `Naming.runs_markBreaks`: what stands between the hyphens are the words.
- Theorem `Naming.kebab_joins_words`: the hyphenated form joins the words, and keeps every letter
  and digit.
-/

namespace ServiceShell

namespace Text

/-! ## Runs -/

variable {wanted : Char → Bool} {c : Char} {rest : List Char}

/-- The runs of a text are what is left between unwanted characters; a run that was begun goes
on. -/
theorem runsFrom_eq_filter (pending cs : List Char) :
    runsFrom wanted pending cs =
      (List.splitOnPPrepend (fun c => !wanted c) cs pending).filter (· ≠ []) := by
  induction cs generalizing pending with
  | nil => cases pending <;> simp [runsFrom]
  | cons c rest ih =>
      rw [runsFrom, List.splitOnPPrepend_cons_eq_if]
      cases hc : wanted c with
      | true => simp [ih]
      | false => cases pending <;> simp [ih]

/-- The runs of a text are what is left between unwanted characters. -/
theorem runs_eq_filter_splitOnP (wanted : Char → Bool) (cs : List Char) :
    runs wanted cs = (cs.splitOnP fun c => !wanted c).filter (· ≠ []) :=
  runsFrom_eq_filter [] cs

/-- The first part before an unwanted character begins as the text does, if that is wanted. -/
theorem exists_splitOnP (wanted : Char → Bool) (cs : List Char) :
    ∃ first parts, cs.splitOnP (fun c => !wanted c) = first :: parts ∧
      first.head? = cs.head?.filter wanted := by
  cases cs with
  | nil => exact ⟨[], [], rfl, rfl⟩
  | cons c rest =>
      obtain ⟨first, parts, hparts⟩ :=
        List.exists_cons_of_ne_nil (List.splitOnP_ne_nil (fun c => !wanted c) rest)
      rw [List.splitOnP_cons_eq_if_modifyHead, hparts]
      cases hc : wanted c with
      | false => exact ⟨[], first :: parts, rfl, by simp [Option.filter, hc]⟩
      | true => exact ⟨c :: first, parts, rfl, by simp [Option.filter, hc]⟩

/-- What is not wanted is in no run. -/
theorem runs_cons_of_not (hc : wanted c = false) : runs wanted (c :: rest) = runs wanted rest := by
  simp [runs_eq_filter_splitOnP, List.splitOnP_cons_eq_if_modifyHead, hc]

/-- What is wanted goes with the run that it stands before, and else is a run of its own. -/
theorem runs_cons_of_wanted (hc : wanted c = true) :
    runs wanted (c :: rest) =
      if rest.head?.any wanted then (runs wanted rest).modifyHead (c :: ·)
      else [c] :: runs wanted rest := by
  obtain ⟨first, parts, hparts, hfirst⟩ := exists_splitOnP wanted rest
  simp only [runs_eq_filter_splitOnP, List.splitOnP_cons_eq_if_modifyHead, hparts, hc]
  cases first with
  | nil =>
      have hrest : ¬ rest.head?.any wanted = true := by
        cases hhead : rest.head? <;> simp_all [Option.filter]
      simp [hrest]
  | cons d first =>
      have hrest : rest.head?.any wanted = true := by
        cases hhead : rest.head? <;> simp_all [Option.filter]
      simp [hrest]

/-- A text that begins with a wanted character has a run there. -/
theorem exists_runs_cons (hc : wanted c = true) (rest : List Char) :
    ∃ run later, runs wanted (c :: rest) = (c :: run) :: later ∧
      run.head? = rest.head?.filter wanted := by
  obtain ⟨first, parts, hparts, hfirst⟩ := exists_splitOnP wanted rest
  refine ⟨first, parts.filter (· ≠ []), ?_, hfirst⟩
  simp [runs_eq_filter_splitOnP, List.splitOnP_cons_eq_if_modifyHead, hparts, hc]

/-- Without its separators a joined text is what was joined. -/
theorem filter_joinWith {separator : Char} {parts : List (List Char)}
    (h : ∀ w ∈ parts, ∀ c ∈ w, c ≠ separator) :
    (joinWith separator parts).filter (· ≠ separator) = parts.flatten := by
  induction parts with
  | nil => rfl
  | cons w rest ih =>
      rw [List.forall_mem_cons] at h
      have hw : w.filter (· ≠ separator) = w := List.filter_eq_self.mpr (by simpa using h.1)
      cases rest with
      | nil => simpa [joinWith] using hw
      | cons v rest =>
          rw [joinWith_cons_cons, List.filter_append, hw, List.filter_cons_of_neg (by simp), ih h.2]
          rfl

end Text

namespace Naming

open Text

/-! ## Breaks -/

/-- Whether a new word begins with the second of two neighbours, given what is behind them: it is a
capital behind a small letter or a digit, or the last one of a run of capitals that a small letter
follows. -/
def IsBreak (c d : Char) (rest : List Char) : Prop :=
  (IsSmall c ∧ d.isUpper = true) ∨
    (c.isUpper = true ∧ d.isUpper = true ∧ rest.head?.any Char.isLower = true)

instance (c d : Char) (rest : List Char) : Decidable (IsBreak c d rest) :=
  inferInstanceAs (Decidable (_ ∨ _))

/-- A name with a hyphen at each break. -/
def markBreaks : List Char → List Char
  | c :: d :: rest =>
    if IsBreak c d rest then c :: '-' :: markBreaks (d :: rest) else c :: markBreaks (d :: rest)
  | cs => cs

/-- The words of a run of letters and digits. -/
def chunkWords : List Char → List (List Char)
  | c :: d :: rest =>
    if IsBreak c d rest then [c] :: chunkWords (d :: rest)
    else (chunkWords (d :: rest)).modifyHead (c :: ·)
  | [] => []
  | [c] => [[c]]

/-- The words of a name: those of each run of letters and digits that other characters leave. -/
def words (cs : List Char) : List (List Char) :=
  ((cs.splitOnP fun c => !c.isAlphanum).filter (· ≠ [])).flatMap chunkWords

/-! ## Two passes in one -/

/-- A capital is no small letter and no digit. -/
theorem not_isSmall_of_isUpper {c : Char} (h : c.isUpper = true) : ¬ IsSmall c :=
  fun hsmall => Bool.false_ne_true (hsmall.toLower_eq.1.symm.trans h)

/-- A capital is no small letter. -/
theorem isLower_of_isUpper {c : Char} (h : c.isUpper = true) : c.isLower = false :=
  eq_false_of_ne_true fun hlower => not_isSmall_of_isUpper h (.inl hlower)

/-- The breaks of acronyms alone: a hyphen before the last capital of a run that a small letter
follows. -/
def markAcronyms : List Char → List Char
  | c :: d :: rest =>
    if c.isUpper && d.isUpper && rest.head?.any Char.isLower then
      c :: '-' :: markAcronyms (d :: rest)
    else c :: markAcronyms (d :: rest)
  | cs => cs

/-- What is no capital ends no run. -/
theorem markAcronyms_cons_of_not {c : Char} (hc : c.isUpper = false) (rest : List Char) :
    markAcronyms (c :: rest) = c :: markAcronyms rest := by
  cases rest with
  | nil => rfl
  | cons d rest => rw [markAcronyms, if_neg (by simp [hc])]

/-- What no capital follows stands before no break. -/
theorem markAcronyms_cons_of_head {rest : List Char} (hrest : rest.head?.any Char.isUpper = false)
    (c : Char) : markAcronyms (c :: rest) = c :: markAcronyms rest := by
  cases rest with
  | nil => rfl
  | cons d rest =>
      have hd : d.isUpper = false := hrest
      rw [markAcronyms, if_neg (by simp [hd])]

/-- Capitals that two more capitals follow are left as they are. -/
theorem markAcronyms_append {run : List Char} (hrun : ∀ c ∈ run, c.isUpper = true) {c d : Char}
    (hc : c.isUpper = true) (hd : d.isUpper = true) (rest : List Char) :
    markAcronyms (run ++ c :: d :: rest) = run ++ markAcronyms (c :: d :: rest) := by
  induction run with
  | nil => rfl
  | cons b run ih =>
      rw [List.forall_mem_cons] at hrun
      -- The second of the characters behind `b` is a capital, so `b` ends no run.
      obtain ⟨second, third, tail, htail, hthird⟩ :
          ∃ second third tail, run ++ c :: d :: rest = second :: third :: tail ∧
            third.isUpper = true := by
        match run, hrun.2 with
        | [], _ => exact ⟨c, d, rest, rfl, hd⟩
        | [a], _ => exact ⟨a, c, d :: rest, rfl, hc⟩
        | a :: e :: run, h => exact ⟨a, e, run ++ c :: d :: rest, rfl, h e (by simp)⟩
      rw [List.cons_append, List.cons_append, ← ih hrun.2, htail, markAcronyms,
        if_neg (by simp [isLower_of_isUpper hthird])]

/-- A run of capitals is closed where its break is. -/
theorem markAcronyms_run {capitals : List Char} (hcapitals : ∀ c ∈ capitals, c.isUpper = true)
    {rest : List Char} (hrest : rest.head?.any Char.isUpper = false) :
    markAcronyms (capitals.reverse ++ rest) =
      closeCapitals (rest.head?.any Char.isLower) capitals ++ markAcronyms rest := by
  match capitals with
  | [] => rfl
  | [last] => exact markAcronyms_cons_of_head hrest last
  | last :: before :: run =>
      simp only [List.forall_mem_cons] at hcapitals
      obtain ⟨hlast, hbefore, hrun⟩ := hcapitals
      have hsplit : (last :: before :: run).reverse ++ rest =
          run.reverse ++ before :: last :: rest := by simp
      rw [hsplit, markAcronyms_append (by simpa using hrun) hbefore hlast, markAcronyms, hlast,
        hbefore, markAcronyms_cons_of_head hrest]
      cases rest.head?.any Char.isLower <;> simp [closeCapitals]

/-- The pass over acronyms, with the run of capitals that it is in. -/
theorem breakAcronymsFrom_eq {capitals : List Char}
    (hcapitals : ∀ c ∈ capitals, c.isUpper = true) (cs : List Char) :
    breakAcronymsFrom capitals cs = markAcronyms (capitals.reverse ++ cs) := by
  induction cs generalizing capitals with
  | nil =>
      rw [breakAcronymsFrom, markAcronyms_run hcapitals rfl]
      exact (List.append_nil _).symm
  | cons c rest ih =>
      rw [breakAcronymsFrom]
      cases hc : c.isUpper with
      | true =>
          rw [if_pos rfl, ih (List.forall_mem_cons.mpr ⟨hc, hcapitals⟩), List.reverse_cons,
            List.append_assoc, List.singleton_append]
      | false =>
          rw [if_neg Bool.false_ne_true, ih (List.forall_mem_nil _),
            markAcronyms_run hcapitals (show (c :: rest).head?.any Char.isUpper = false from hc),
            markAcronyms_cons_of_not hc]
          rfl

/-- Behind a capital the first pass puts no break. -/
theorem breakHumps_cons_of_isUpper {c : Char} (hc : c.isUpper = true) (rest : List Char) :
    breakHumps (c :: rest) = c :: breakHumps rest := by
  cases rest with
  | nil => rfl
  | cons d rest =>
      have hnot : ¬ (c.isLower || c.isDigit) = true := by
        rw [Bool.or_eq_true]
        exact not_isSmall_of_isUpper hc
      rw [breakHumps, if_neg (by simp [hnot])]

/-- The first pass leaves the first character where it is. -/
theorem exists_breakHumps_cons (c : Char) (rest : List Char) :
    ∃ marked, breakHumps (c :: rest) = c :: marked := by
  cases rest with
  | nil => exact ⟨[], rfl⟩
  | cons d rest =>
      rw [breakHumps]
      split
      · exact ⟨_, rfl⟩
      · exact ⟨_, rfl⟩

theorem head?_breakHumps (cs : List Char) : (breakHumps cs).head? = cs.head? := by
  cases cs with
  | nil => rfl
  | cons c rest =>
      obtain ⟨marked, heq⟩ := exists_breakHumps_cons c rest
      rw [heq]
      rfl

/-- The two passes put a hyphen at each break, and nowhere else. -/
theorem breakAcronyms_breakHumps (cs : List Char) :
    breakAcronyms (breakHumps cs) = markBreaks cs := by
  have hpass : ∀ cs, breakAcronyms cs = markAcronyms cs :=
    fun cs => breakAcronymsFrom_eq (List.forall_mem_nil _) cs
  rw [hpass]
  induction cs with
  | nil => rfl
  | cons c rest ih =>
      cases rest with
      | nil => rfl
      | cons d rest =>
          rw [markBreaks, ← ih]
          by_cases hhump : IsSmall c ∧ d.isUpper = true
          · -- The first pass breaks here, and a hyphen is no capital.
            rw [breakHumps, if_pos (by simpa [IsSmall] using hhump), if_pos (.inl hhump),
              markAcronyms_cons_of_head rfl, markAcronyms_cons_of_not rfl]
          · rw [breakHumps, if_neg (by simpa [IsSmall] using hhump)]
            by_cases hcapitals : c.isUpper = true ∧ d.isUpper = true
            · -- The second pass sees what is behind the two capitals as it was.
              obtain ⟨hc, hd⟩ := hcapitals
              rw [breakHumps_cons_of_isUpper hd, markAcronyms, head?_breakHumps]
              simp [IsBreak, not_isSmall_of_isUpper hc, hc, hd]
            · obtain ⟨marked, heq⟩ := exists_breakHumps_cons d rest
              rw [heq, markAcronyms, if_neg (by simp_all), if_neg (by simp_all [IsBreak])]

/-! ## Words -/

/-- A break has letters or digits on both sides. -/
theorem IsBreak.isAlphanum {c d : Char} {rest : List Char} (h : IsBreak c d rest) :
    c.isAlphanum = true ∧ d.isAlphanum = true := by
  have hupper : ∀ e : Char, e.isUpper = true → e.isAlphanum = true := by
    intro e he
    change (e.isUpper || e.isLower || e.isDigit) = true
    rw [he]
    rfl
  rcases h with ⟨hc, hd⟩ | ⟨hc, hd, -⟩
  · exact ⟨hc.isAlphanum, hupper d hd⟩
  · exact ⟨hupper c hc, hupper d hd⟩

/-- Whether there is a break does not depend on what is behind the run. -/
theorem isBreak_congr {c d : Char} {run rest : List Char}
    (h : run.head? = rest.head?.filter Char.isAlphanum) : IsBreak c d run ↔ IsBreak c d rest := by
  have hlower : run.head?.any Char.isLower = rest.head?.any Char.isLower := by
    rw [h]
    cases rest.head? with
    | none => rfl
    | some e =>
        cases he : e.isAlphanum with
        | true => simp [Option.filter, he]
        | false =>
            have hnot : e.isLower = false :=
              eq_false_of_ne_true fun hlower =>
                Bool.false_ne_true (he.symm.trans (IsSmall.isAlphanum (.inl hlower)))
            simp [Option.filter, he, hnot]
  rw [IsBreak, IsBreak, hlower]

theorem chunkWords_ne_nil (c : Char) (rest : List Char) : chunkWords (c :: rest) ≠ [] := by
  induction rest generalizing c with
  | nil => exact List.cons_ne_nil _ _
  | cons d rest ih =>
      rw [chunkWords]
      split
      · exact List.cons_ne_nil _ _
      · simpa using ih d

theorem head?_markBreaks (cs : List Char) : (markBreaks cs).head? = cs.head? := by
  fun_cases markBreaks cs with
  | case1 => rfl
  | case2 => rfl
  | case3 => rfl

theorem words_eq_flatMap (cs : List Char) :
    words cs = (runs Char.isAlphanum cs).flatMap chunkWords := by
  rw [words, runs_eq_filter_splitOnP]

/-- What stands between the hyphens are the words. -/
theorem runs_markBreaks (cs : List Char) : runs Char.isAlphanum (markBreaks cs) = words cs := by
  rw [words_eq_flatMap]
  induction cs with
  | nil => rfl
  | cons c rest ih =>
      cases rest with
      | nil => cases hc : c.isAlphanum <;> simp [markBreaks, runs, runsFrom, hc, chunkWords]
      | cons d rest =>
          have hhead : (markBreaks (d :: rest)).head? = some d := head?_markBreaks _
          cases hc : c.isAlphanum with
          | false =>
              have hnot : ¬ IsBreak c d rest := fun h => Bool.false_ne_true (hc ▸ h.isAlphanum.1)
              rw [markBreaks, if_neg hnot, runs_cons_of_not hc, runs_cons_of_not hc, ih]
          | true =>
              cases hd : d.isAlphanum with
              | false =>
                  have hnot : ¬ IsBreak c d rest :=
                    fun h => Bool.false_ne_true (hd ▸ h.isAlphanum.2)
                  rw [markBreaks, if_neg hnot, runs_cons_of_wanted hc, runs_cons_of_wanted hc,
                    hhead, ih]
                  simp [hd, chunkWords]
              | true =>
                  obtain ⟨run, later, hruns, hrun⟩ := exists_runs_cons hd rest
                  have hwords : (runs Char.isAlphanum (c :: d :: rest)).flatMap chunkWords =
                      chunkWords (c :: d :: run) ++ later.flatMap chunkWords := by
                    rw [runs_cons_of_wanted hc, hruns]
                    simp [hd]
                  have hmarked : runs Char.isAlphanum (markBreaks (d :: rest)) =
                      chunkWords (d :: run) ++ later.flatMap chunkWords := by
                    rw [ih, hruns, List.flatMap_cons]
                  obtain ⟨w, others, hfirst⟩ :=
                    List.exists_cons_of_ne_nil (chunkWords_ne_nil d run)
                  rw [hwords, chunkWords, markBreaks]
                  by_cases hbreak : IsBreak c d rest
                  · rw [if_pos hbreak, if_pos ((isBreak_congr hrun).mpr hbreak),
                      runs_cons_of_wanted hc, runs_cons_of_not (by decide), hmarked]
                    rfl
                  · rw [if_neg hbreak, if_neg (mt (isBreak_congr hrun).mp hbreak),
                      runs_cons_of_wanted hc, hhead, hmarked, hfirst]
                    simp [hd]

/-- The hyphenated form of a name is made in one pass: its words in lower case, joined by hyphens.
Without the hyphens it is the letters and digits of the name, in lower case and in order. -/
theorem kebab_joins_words (name : String) :
    kebab name =
        String.ofList (['-'].intercalate ((words name.toList).map (List.map Char.toLower))) ∧
      (kebab name).toList.filter (· ≠ '-') =
        (name.toList.filter Char.isAlphanum).map Char.toLower := by
  have hbreaks : runs Char.isAlphanum (breakAcronyms (breakHumps name.toList)) =
      words name.toList := by
    rw [breakAcronyms_breakHumps, runs_markBreaks]
  have hform : kebab name =
      String.ofList (['-'].intercalate ((words name.toList).map (List.map Char.toLower))) := by
    rw [kebab, joinWords, hbreaks, map_joinWith]
    rfl
  have hsmall : ∀ w ∈ (words name.toList).map (List.map Char.toLower), ∀ c ∈ w, c ≠ '-' := by
    simp only [List.forall_mem_map, ← hbreaks]
    intro w hw c hc heq
    have hsmall := isSmall_toLower ((mem_of_mem_runs hw).2 c hc)
    rw [heq] at hsmall
    exact absurd hsmall (by decide)
  refine ⟨hform, ?_⟩
  rw [hform, String.toList_ofList, ← joinWith, filter_joinWith hsmall, ← List.map_flatten,
    ← hbreaks, flatten_runs, filter_breaks]

/-- Capitals, acronyms, digits and other characters in one name. -/
example : words "DBInstanceIDs_v2-MaxKeysé".toList =
    ["DB", "Instance", "I", "Ds", "v2", "Max", "Keys"].map String.toList := by decide +kernel

end Naming

end ServiceShell
