import Mathlib.Data.Bool.AllAny
import ServiceShell.Proofs.Text.Hyphenated
import ServiceShell.Proofs.Text.Unique

/-!
# Variables of the host shell

The host shell reads a dollar sign and a name as a variable: a small letter or an underscore, and
then small letters, digits and underscores.  Some of these names it keeps for itself.  A name that
is made for a positional parameter is always free for use.  A hyphenated name is read with
underscores in place of its hyphens; it may begin with a digit, or be a name that the host shell
keeps.

Main results:

- Definition `Naming.IsOwnVariable`: a variable that belongs to whoever names it.
- Theorem `Naming.isOwnVariable_variableOf_iff`: which names are read as such variables.
- Theorem `Naming.isOwnVariable_candidate_iff`: a number behind a name keeps it clear of the names
  that the host shell keeps, and helps with nothing else.
- Theorem `Naming.identifier_spec`: what is known of a name that is made to be a variable.
-/

namespace ServiceShell.Naming

open Text

/-! ## Variables -/

/-- Whether a character may stand in a variable. -/
def IsVariablePart (c : Char) : Prop := IsSmall c ∨ c = '_'

instance (c : Char) : Decidable (IsVariablePart c) := inferInstanceAs (Decidable (_ ∨ _))

/-- Whether a text is written as a variable: `[a-z_][a-z0-9_]*`. -/
def IsVariable (text : String) : Prop :=
  ∃ c rest, text.toList = c :: rest ∧ (c.isLower = true ∨ c = '_') ∧ ∀ d ∈ rest, IsVariablePart d

/-- Whether a text is a variable that the host shell does not keep for itself. -/
structure IsOwnVariable (text : String) : Prop where
  /-- It is written as a variable. -/
  isVariable : IsVariable text
  /-- It is not kept. -/
  notMem_reserved : text ∉ reserved

/-- Whether a text begins with a digit. -/
def BeginsWithDigit (text : String) : Prop := text.toList.head?.any Char.isDigit = true

instance (text : String) : Decidable (BeginsWithDigit text) :=
  inferInstanceAs (Decidable (_ = true))

/-- Whether a text is not empty, and holds nothing but characters of variables and hyphens. -/
structure IsPlainName (text : String) : Prop where
  /-- It is not empty. -/
  ne_empty : text ≠ ""
  /-- It holds characters of variables and hyphens. -/
  parts : ∀ c ∈ text.toList, c = '-' ∨ IsVariablePart c

instance (text : String) : Decidable (IsPlainName text) :=
  decidable_of_iff (text ≠ "" ∧ text.toList.all fun c => c = '-' ∨ IsVariablePart c)
    ⟨fun h => ⟨h.1, List.all_iff_forall_prop.mp h.2⟩,
      fun h => ⟨h.ne_empty, List.all_iff_forall_prop.mpr h.parts⟩⟩

section

variable {text : String} {c : Char}

/-- A small letter is no digit. -/
theorem isDigit_of_isLower (h : c.isLower = true) : c.isDigit = false :=
  of_isAlphanum (p := fun c => c.isLower = true → c.isDigit = false) (by decide +kernel)
    (IsSmall.isAlphanum (.inl h)) h

theorem exists_toList_eq_cons (h : text ≠ "") : ∃ c rest, text.toList = c :: rest :=
  List.exists_cons_of_ne_nil fun hnil => h (String.toList_inj.mp hnil)

/-- A text of the right characters is a variable unless it begins with a digit. -/
theorem isVariable_iff (hne : text ≠ "") (hparts : ∀ c ∈ text.toList, IsVariablePart c) :
    IsVariable text ↔ ¬ BeginsWithDigit text := by
  obtain ⟨c, rest, heq⟩ := exists_toList_eq_cons hne
  have hbegins : BeginsWithDigit text ↔ c.isDigit = true := by
    rw [BeginsWithDigit, heq]
    exact Iff.rfl
  rw [heq, List.forall_mem_cons] at hparts
  rw [hbegins]
  constructor
  · rintro ⟨d, _, hd, hstart, -⟩ hdigit
    cases heq.symm.trans hd
    rcases hstart with hlower | rfl
    · exact Bool.false_ne_true ((isDigit_of_isLower hlower).symm.trans hdigit)
    · exact absurd hdigit (by decide)
  · intro hdigit
    refine ⟨c, rest, heq, ?_, hparts.2⟩
    rcases hparts.1 with (hlower | hdigit') | hunderscore
    · exact .inl hlower
    · exact absurd hdigit' hdigit
    · exact .inr hunderscore

/-- The names that the host shell keeps are written in small letters. -/
theorem notMem_reserved_of_mem (hmem : c ∈ text.toList) (hc : c.isLower = false) :
    text ∉ reserved := by
  have hreserved : ∀ name ∈ reserved, name.toList.all Char.isLower = true := by decide
  exact fun h => Bool.false_ne_true
    (hc.symm.trans (List.all_eq_true.mp (hreserved text h) c hmem))

/-! ## Names that are read as variables -/

/-- Hyphens read as underscores leave characters of variables. -/
theorem isVariablePart_of_mem_variableOf (h : IsPlainName text)
    (hc : c ∈ (variableOf text).toList) : IsVariablePart c := by
  rw [variableOf, String.toList_ofList] at hc
  obtain ⟨d, hd, rfl⟩ := List.mem_map.mp hc
  split <;> rename_i hhyphen
  · exact .inr rfl
  · exact (h.parts d hd).resolve_left hhyphen

theorem beginsWithDigit_variableOf : BeginsWithDigit (variableOf text) ↔ BeginsWithDigit text := by
  rw [BeginsWithDigit, BeginsWithDigit, variableOf, String.toList_ofList, List.head?_map]
  cases text.toList.head? with
  | none => exact Iff.rfl
  | some c =>
      by_cases hc : c = '-'
      · subst hc
        decide
      · simp [hc]

/-- The names that the host shell keeps have no hyphens. -/
theorem variableOf_mem_reserved_iff : variableOf text ∈ reserved ↔ text ∈ reserved := by
  by_cases hhyphen : '-' ∈ text.toList
  · have hunderscore : '_' ∈ (variableOf text).toList := by
      rw [variableOf, String.toList_ofList]
      exact List.mem_map.mpr ⟨'-', hhyphen, rfl⟩
    exact iff_of_false (notMem_reserved_of_mem hunderscore (by decide))
      (notMem_reserved_of_mem hhyphen (by decide))
  · rw [variableOf_of_forall_ne fun c hc => ne_of_mem_of_not_mem hc hhyphen]

theorem variableOf_ne_empty (h : text ≠ "") : variableOf text ≠ "" := by
  rw [variableOf, Ne, String.ofList_eq_empty_iff, List.map_eq_nil_iff]
  exact fun hnil => h (String.toList_inj.mp hnil)

/-- A name is read as a variable of its own unless it begins with a digit or is a name that the host
shell keeps. -/
theorem isOwnVariable_variableOf_iff (h : IsPlainName text) :
    IsOwnVariable (variableOf text) ↔ ¬ BeginsWithDigit text ∧ text ∉ reserved := by
  have hvariable : IsVariable (variableOf text) ↔ ¬ BeginsWithDigit text := by
    rw [isVariable_iff (variableOf_ne_empty h.ne_empty)
      fun c hc => isVariablePart_of_mem_variableOf h hc, beginsWithDigit_variableOf]
  rw [← hvariable, ← variableOf_mem_reserved_iff]
  exact ⟨fun hown => ⟨hown.isVariable, hown.notMem_reserved⟩, fun hboth => ⟨hboth.1, hboth.2⟩⟩

/-! ## Numbers -/

theorem beginsWithDigit_append (h : text ≠ "") (other : String) :
    BeginsWithDigit (text ++ other) ↔ BeginsWithDigit text := by
  obtain ⟨c, rest, heq⟩ := exists_toList_eq_cons h
  rw [BeginsWithDigit, BeginsWithDigit, String.toList_append, heq]
  exact Iff.rfl

/-- What a numbered name ends with. -/
theorem isDigit_of_mem_toString {n : Nat} (h : c ∈ (toString n).toList) : c.isDigit = true := by
  rw [Nat.toString_eq_repr, Nat.toList_repr] at h
  exact Nat.isDigit_of_mem_toDigits (by decide) (by decide) h

/-- A number behind a name leaves its characters those of variables and hyphens. -/
theorem isPlainName_candidate {base separator : String} (hbase : IsPlainName base)
    (hseparator : IsPlainName separator) (n : Nat) : IsPlainName (candidate base separator n) := by
  cases n with
  | zero => exact hbase
  | succ n =>
      refine ⟨by simp [candidate, hbase.ne_empty], ?_⟩
      simp only [candidate, String.toList_append, List.mem_append]
      rintro c ((hc | hc) | hc)
      · exact hbase.parts c hc
      · exact hseparator.parts c hc
      · exact .inr (.inl (.inr (isDigit_of_mem_toString hc)))

/-- A number behind a name keeps it clear of the names that the host shell keeps; but a digit at its
beginning stays there. -/
theorem isOwnVariable_candidate_iff {base separator : String} (hbase : IsPlainName base)
    (hseparator : IsPlainName separator) (n : Nat) :
    IsOwnVariable (variableOf (candidate base separator n)) ↔
      ¬ BeginsWithDigit base ∧ (base ∈ reserved → n ≠ 0) := by
  cases n with
  | zero => simp [isOwnVariable_variableOf_iff hbase]
  | succ n =>
      have hkept : candidate base separator (n + 1) ∉ reserved := by
        obtain ⟨c, hc⟩ := List.exists_mem_of_ne_nil (toString (n + 2)).toList (by simp)
        have hmem : c ∈ (candidate base separator (n + 1)).toList := by
          rw [candidate, String.toList_append]
          exact List.mem_append_right _ hc
        refine notMem_reserved_of_mem hmem ?_
        exact eq_false_of_ne_true fun hlower => Bool.false_ne_true
          ((isDigit_of_isLower hlower).symm.trans (isDigit_of_mem_toString hc))
      have hbegins : BeginsWithDigit (candidate base separator (n + 1)) ↔ BeginsWithDigit base := by
        rw [candidate, String.append_assoc, beginsWithDigit_append hbase.ne_empty]
      rw [isOwnVariable_variableOf_iff (isPlainName_candidate hbase hseparator _), hbegins]
      simp [hkept]

end

/-! ## Names that are made -/

/-- A hyphenated name that is not empty. -/
theorem isPlainName_kebab {name : String} (h : kebab name ≠ "") : IsPlainName (kebab name) := by
  obtain ⟨words, hwords, heq⟩ := isHyphenated_kebab name
  refine ⟨h, fun c hc => ?_⟩
  rw [heq] at hc
  refine (mem_joinWith hc).imp_right ?_
  rintro ⟨w, hw, hcw⟩
  exact .inl ((hwords w hw).2 c hcw)

/-- Words that are joined by underscores are made of the characters of variables. -/
theorem isVariablePart_of_mem_joinWords {cs : List Char} {c : Char} (h : c ∈ joinWords '_' cs) :
    IsVariablePart c := by
  obtain ⟨d, hd, rfl⟩ := List.mem_map.mp h
  rcases mem_joinWith hd with rfl | ⟨w, hw, hdw⟩
  · exact .inr (by decide)
  · exact .inl (isSmall_toLower ((mem_of_mem_runs hw).2 d hdw))

/-- A name that is made to be a variable is written as one, without a digit at its beginning, and is
none that the host shell keeps. -/
theorem identifier_spec (name : String) :
    IsPlainName (identifier name) ∧ ¬ BeginsWithDigit (identifier name) ∧
      identifier name ∉ reserved := by
  have hparts : ∀ c ∈ joinWords '_' name.toList, IsVariablePart c :=
    fun c hc => isVariablePart_of_mem_joinWords hc
  rw [identifier]
  generalize joinWords '_' name.toList = joined at hparts
  cases joined with
  | nil => exact ⟨by decide, by decide, by decide⟩
  | cons c rest =>
      -- An underscore may come before the name, and one behind it.
      have hstarted : ∃ d later, (if c.isDigit then '_' :: c :: rest else c :: rest) = d :: later ∧
          d.isDigit = false ∧ ∀ e ∈ d :: later, IsVariablePart e := by
        cases hc : c.isDigit with
        | true =>
            have hall : ∀ e ∈ '_' :: c :: rest, IsVariablePart e :=
              List.forall_mem_cons.mpr ⟨.inr rfl, hparts⟩
            exact ⟨'_', c :: rest, rfl, by decide, hall⟩
        | false => exact ⟨c, rest, rfl, hc, hparts⟩
      obtain ⟨d, later, heq, hd, hlater⟩ := hstarted
      rw [toVariable, heq]
      split <;> rename_i hkept
      · refine ⟨⟨by simp, fun e he => .inr ?_⟩, by simp [BeginsWithDigit, hd],
          notMem_reserved_of_mem (c := '_') (by simp) (by decide)⟩
        rw [String.toList_ofList, List.mem_append, List.mem_singleton] at he
        exact he.elim (hlater e) .inr
      · refine ⟨⟨by simp, fun e he => .inr ?_⟩, by simp [BeginsWithDigit, hd], by simpa using hkept⟩
        rw [String.toList_ofList] at he
        exact hlater e he

end ServiceShell.Naming
