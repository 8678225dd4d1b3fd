import Mathlib.Data.List.TakeWhile
import ServiceShell.Proofs.Signature.Key
import ServiceShell.Proofs.Signature.Variables

/-!
# Calls are read back

The call in the body of a command ends with a record that pairs the names of members with variables.
Who reads this record gets the pairs back, whatever the names are, but for one kind of name: a word
with a newline behind it stands without quotes too, and then no key is read from it.

Main results:

- Definition `Signature.readCall?`: a reader of the record at the end of a call.
- Theorem `Signature.readFields?_callFields_iff`: when the fields of a record are read back.
- Theorem `Signature.call_is_read_back_iff`: when the record in a call is.
-/

namespace ServiceShell

open Naming Text

namespace Signature

/-! ## A reader of records -/

/-- Reads a key: a word `[A-Za-z_][A-Za-z0-9_]*` stands for itself, and a quoted text for what it
quotes. -/
def readKey? : List Char → Option (String × List Char)
  | [] => none
  | c :: rest =>
    if c = '"' then
      match Json.quotedFrom 0 0 [] rest with
      | .ok (text, used) => some (String.ofList text, rest.drop used)
      | .error _ => none
    else if isKeyStart c then
      some (String.ofList (c :: rest.takeWhile isKeyChar), rest.dropWhile isKeyChar)
    else none

/-- Whether a character is read as part of a variable: all but those that can follow one. -/
def isVariableChar (c : Char) : Bool := c ≠ ',' && c ≠ '\x7d'

/-- Reads a key and the variable that it is paired with. -/
def readField? (cs : List Char) : Option ((String × String) × List Char) :=
  match readKey? cs with
  | some (key, ':' :: ' ' :: '$' :: rest) =>
    some ((key, String.ofList (rest.takeWhile isVariableChar)), rest.dropWhile isVariableChar)
  | _ => none

theorem length_le_of_readKey? {cs rest : List Char} {key : String}
    (h : readKey? cs = some (key, rest)) : rest.length ≤ cs.length := by
  unfold readKey? at h
  split at h
  · cases h
  · rename_i c later
    rw [List.length_cons]
    split at h
    · split at h <;> cases h
      rw [List.length_drop]
      omega
    · obtain ⟨-, heq⟩ := Option.ite_none_right_eq_some.mp h
      cases heq
      exact Nat.le_succ_of_le (List.length_dropWhile_le _ _)

theorem length_lt_of_readField? {cs rest : List Char} {field : String × String}
    (h : readField? cs = some (field, rest)) : rest.length < cs.length := by
  unfold readField? at h
  split at h
  · rename_i key later hkey
    cases h
    have hlater := length_le_of_readKey? hkey
    have hdrop := List.length_dropWhile_le isVariableChar later
    simp only [List.length_cons] at hlater
    omega
  · cases h

/-- Reads fields with commas between them, up to the brace that closes the record and the text. -/
def readFields? (cs : List Char) : Option (List (String × String)) :=
  match hfield : readField? cs with
  | some (field, ',' :: ' ' :: rest) =>
    have := length_lt_of_readField? hfield
    (readFields? rest).map (field :: ·)
  | some (field, ['\x7d']) => some [field]
  | _ => none
termination_by cs.length
decreasing_by
  simp only [List.length_cons] at this
  omega

/-- Reads a record that is all of a text. -/
def readRecord? : List Char → Option (List (String × String))
  | ['\x7b', '\x7d'] => some []
  | '\x7b' :: rest => readFields? rest
  | _ => none

/-- Reads the record at the end of a line, behind the words that come before it. -/
def readCall? (words line : String) : Option (List (String × String)) :=
  (line.toList.dropPrefix? words.toList).bind readRecord?

/-! ## Keys -/

/-- A word is read up to its end. -/
theorem readKey?_word {word : List Char} (hword : IsKeyWord word) {c : Char}
    (hc : isKeyChar c = false) (rest : List Char) :
    readKey? (word ++ c :: rest) = some (String.ofList word, c :: rest) := by
  obtain ⟨first, more, rfl, hstart, hmore⟩ := hword
  have hquote : first ≠ '"' := by
    rintro rfl
    exact absurd hstart (by decide)
  have hend : ¬ isKeyChar c = true := by
    rw [hc]
    exact Bool.false_ne_true
  rw [List.cons_append, readKey?, if_neg hquote, if_pos hstart, List.takeWhile_append_of_pos hmore,
    List.dropWhile_append_of_pos hmore, List.takeWhile_cons_of_neg hend,
    List.dropWhile_cons_of_neg hend, List.append_nil]

/-- A quoted text is read as what it quotes. -/
theorem readKey?_quote (name : String) (rest : List Char) :
    readKey? ((quote name).toList ++ rest) = some (name, rest) := by
  have hread := Json.quotedFrom_quoted (Json.isWritten_encode .ascii) name.toList [] rest 0
  have hdrop : (name.toList.flatMap Alphabet.ascii.encode ++ '"' :: rest).drop
      (0 + (name.toList.flatMap Alphabet.ascii.encode).length + 1) = rest := by
    rw [Nat.zero_add, ← List.drop_drop, List.drop_left]
    rfl
  have hquote : (quote name).toList ++ rest =
      '"' :: (name.toList.flatMap Alphabet.ascii.encode ++ '"' :: rest) := by
    simp [quote, Alphabet.quote, Alphabet.quoteChars]
  rw [hquote, readKey?, if_pos rfl, hread]
  simp only [List.reverse_nil, List.nil_append, String.ofList_toList, hdrop]

/-- A key that is written is read as its name, unless this is a word with a newline behind it: then
the newline is left. -/
theorem readKey?_recordKey (name : String) {c : Char} (hc : isKeyChar c = false)
    (rest : List Char) :
    (¬ IsBrokenWord name → readKey? ((recordKey name).toList ++ c :: rest) =
        some (name, c :: rest)) ∧
      (IsBrokenWord name → ∃ word, readKey? ((recordKey name).toList ++ c :: rest) =
        some (word, '\n' :: c :: rest)) := by
  unfold recordKey
  split <;> rename_i hbare
  · constructor
    · intro hbroken
      have hword : IsKeyWord name.toList := (isBareKey_iff.mp hbare).resolve_right hbroken
      rw [readKey?_word hword hc, String.ofList_toList]
    · rintro ⟨word, hword, heq⟩
      rw [heq, List.append_assoc]
      exact ⟨_, readKey?_word hword (by decide) _⟩
  · refine ⟨fun _ => readKey?_quote name _, fun hbroken => ?_⟩
    exact absurd (isBareKey_iff.mpr (.inr hbroken)) hbare

/-! ## Fields -/

/-- Whether a variable holds none of the characters that can follow one in a record. -/
def IsClosed (name : String) : Prop := ∀ c ∈ name.toList, isVariableChar c = true

instance (name : String) : Decidable (IsClosed name) :=
  decidable_of_iff (name.toList.all isVariableChar = true) List.all_eq_true

/-- A field that is written is read as the name and the variable, unless the name is a word with a
newline behind it: then nothing is read. -/
theorem readField?_callField {p : Parameter} (hclosed : IsClosed p.variableName) {c : Char}
    (hc : isVariableChar c = false) (rest : List Char) :
    (¬ IsBrokenWord p.modelName → readField? ((callField p).toList ++ c :: rest) =
        some ((p.modelName, p.variableName), c :: rest)) ∧
      (IsBrokenWord p.modelName → readField? ((callField p).toList ++ c :: rest) = none) := by
  have htext : (callField p).toList ++ c :: rest = (recordKey p.modelName).toList ++
      ':' :: ' ' :: '$' :: (p.variableName.toList ++ c :: rest) := by
    simp [callField, Parameter.variableName]
  have hend : ¬ isVariableChar c = true := by
    rw [hc]
    exact Bool.false_ne_true
  obtain ⟨hread, hbroken⟩ := readKey?_recordKey p.modelName (by decide : isKeyChar ':' = false)
    (' ' :: '$' :: (p.variableName.toList ++ c :: rest))
  rw [htext, readField?]
  constructor
  · intro hname
    rw [hread hname]
    simp only [List.takeWhile_append_of_pos hclosed, List.dropWhile_append_of_pos hclosed,
      List.takeWhile_cons_of_neg hend, List.dropWhile_cons_of_neg hend, List.append_nil,
      String.ofList_toList]
  · intro hname
    obtain ⟨word, hword⟩ := hbroken hname
    rw [hword]
    rfl

/-- A variable that is read holds none of the characters that can follow one. -/
theorem isClosed_of_readField? {cs rest : List Char} {field : String × String}
    (h : readField? cs = some (field, rest)) : IsClosed field.2 := by
  unfold readField? at h
  split at h
  · cases h
    intro c hc
    rw [String.toList_ofList] at hc
    exact List.mem_takeWhile_imp hc
  · cases h

theorem isClosed_of_readFields? {cs : List Char} {fields : List (String × String)}
    (h : readFields? cs = some fields) : ∀ field ∈ fields, IsClosed field.2 := by
  fun_induction readFields? cs generalizing fields with
  | case1 cs field rest hfield _ ih =>
      obtain ⟨more, hmore, rfl⟩ := Option.map_eq_some_iff.mp h
      exact List.forall_mem_cons.mpr ⟨isClosed_of_readField? hfield, ih hmore⟩
  | case2 cs field hfield =>
      cases h
      exact List.forall_mem_singleton.mpr (isClosed_of_readField? hfield)
  | case3 => cases h

/-! ## Records -/

section Records

variable {cs rest : List Char} {field : String × String}

/-- Behind a comma and a space the next field is read. -/
theorem readFields?_of_comma (h : readField? cs = some (field, ',' :: ' ' :: rest)) :
    readFields? cs = (readFields? rest).map (field :: ·) := by
  rw [readFields?]
  split
  case h_1 hread =>
    cases h.symm.trans hread
    rfl
  case h_2 hread => cases h.symm.trans hread
  case h_3 hcomma _ => exact (hcomma _ _ h).elim

/-- Behind a closing brace nothing is read. -/
theorem readFields?_of_brace (h : readField? cs = some (field, ['\x7d'])) :
    readFields? cs = some [field] := by
  rw [readFields?]
  split
  case h_1 hread => cases h.symm.trans hread
  case h_2 hread =>
    cases h.symm.trans hread
    rfl
  case h_3 hbrace => exact (hbrace _ h).elim

/-- Without a field nothing is read. -/
theorem readFields?_eq_none (h : readField? cs = none) : readFields? cs = none := by
  rw [readFields?]
  split <;> rename_i hread
  · cases h.symm.trans hread
  · cases h.symm.trans hread
  · rfl

end Records

/-- The name of the member and the variable that the call pairs with it. -/
def pairOf (p : Parameter) : String × String := (p.modelName, p.variableName)

/-- Fields that are written are read as their names and variables exactly when no name is a word
with a newline behind it, as long as the variables are closed. -/
theorem readFields?_callFields_iff {ps : List Parameter} (hne : ps ≠ [])
    (hclosed : ∀ p ∈ ps, IsClosed p.variableName) :
    readFields? ((", ".intercalate (ps.map callField)).toList ++ ['\x7d']) =
        some (ps.map pairOf) ↔ ∀ p ∈ ps, ¬ IsBrokenWord p.modelName := by
  induction ps with
  | nil => exact absurd rfl hne
  | cons p rest ih =>
      rw [List.forall_mem_cons] at hclosed ⊢
      cases rest with
      | nil =>
          obtain ⟨hread, hbroken⟩ := readField?_callField hclosed.1
            (by decide : isVariableChar '\x7d' = false) []
          have htext : (", ".intercalate ([p].map callField)).toList = (callField p).toList := by
            simp
          rw [htext]
          by_cases hname : IsBrokenWord p.modelName
          · rw [readFields?_eq_none (hbroken hname)]
            exact iff_of_false nofun fun h => h.1 hname
          · rw [readFields?_of_brace (hread hname)]
            exact iff_of_true rfl ⟨hname, List.forall_mem_nil _⟩
      | cons q more =>
          obtain ⟨hread, hbroken⟩ := readField?_callField hclosed.1
            (by decide : isVariableChar ',' = false)
            (' ' :: ((", ".intercalate ((q :: more).map callField)).toList ++ ['\x7d']))
          have htext : (", ".intercalate ((p :: q :: more).map callField)).toList ++ ['\x7d'] =
              (callField p).toList ++ ',' :: ' ' ::
                ((", ".intercalate ((q :: more).map callField)).toList ++ ['\x7d']) := by
            simp [String.toList_intercalate]
          rw [htext]
          by_cases hname : IsBrokenWord p.modelName
          · rw [readFields?_eq_none (hbroken hname)]
            exact iff_of_false nofun fun h => h.1 hname
          · rw [readFields?_of_comma (hread hname), ← ih (List.cons_ne_nil _ _) hclosed.2,
              Option.map_eq_some_iff, List.map_cons, and_iff_right hname]
            constructor
            · rintro ⟨fields, hfields, heq⟩
              rw [hfields, (List.cons.inj heq).2]
            · intro hfields
              exact ⟨_, hfields, rfl⟩

/-- A record is read back exactly when no name is a word with a newline behind it, and the variables
are closed. -/
theorem readRecord?_callFields_iff (ps : List Parameter) :
    readRecord? ('\x7b' :: ((", ".intercalate (ps.map callField)).toList ++ ['\x7d'])) =
        some (ps.map pairOf) ↔
      (∀ p ∈ ps, ¬ IsBrokenWord p.modelName) ∧ ∀ p ∈ ps, IsClosed p.variableName := by
  cases ps with
  | nil => exact iff_of_true rfl ⟨List.forall_mem_nil _, List.forall_mem_nil _⟩
  | cons p rest =>
      generalize hps : p :: rest = ps
      have hne : ps ≠ [] := hps ▸ List.cons_ne_nil _ _
      rw [readRecord?]
      · constructor
        · intro h
          have hclosed : ∀ q ∈ ps, IsClosed q.variableName :=
            fun q hq => isClosed_of_readFields? h (pairOf q) (List.mem_map_of_mem hq)
          exact ⟨(readFields?_callFields_iff hne hclosed).mp h, hclosed⟩
        · rintro ⟨hnames, hclosed⟩
          exact (readFields?_callFields_iff hne hclosed).mpr hnames
      · -- A field is not empty, so there is more than a closing brace.
        subst hps
        have htext : ∃ more, (", ".intercalate ((p :: rest).map callField)).toList =
            (callField p).toList ++ more := by
          cases rest <;> simp [String.toList_intercalate]
        obtain ⟨more, hmore⟩ := htext
        rw [hmore]
        intro heq
        have hlength := congrArg List.length heq
        simp [callField] at hlength
        omega

/-! ## Calls -/

/-- The words of a call before its record. -/
def callWords (dispatcher : String) (s : Signature) : String :=
  "    " ++ dispatcher ++ " " ++ s.service ++ " " ++ s.modelName ++ " "

/-- The record in a call is what stands behind its words. -/
theorem readCall?_callLine {s : Signature} (h : ∀ p ∈ s.parameters, p.rest = false)
    (dispatcher : String) :
    readCall? (callWords dispatcher s) (callLine dispatcher s) =
      readRecord? ('\x7b' :: ((", ".intercalate (s.parameters.map callField)).toList
        ++ ['\x7d'])) := by
  have htext : (callLine dispatcher s).toList = (callWords dispatcher s).toList ++
      '\x7b' :: ((", ".intercalate (s.parameters.map callField)).toList ++ ['\x7d']) := by
    rw [callLine_of_forall_rest h]
    simp [callWords]
  rw [readCall?, htext, List.dropPrefix?_append_of_beq _ (beq_self_eq_true _), Option.bind_some]

/-- What is written as a variable is closed. -/
theorem isVariableChar_of_isVariablePart {c : Char} (h : IsVariablePart c) :
    isVariableChar c = true := by
  have hcomma : c ≠ ',' := by
    rintro rfl
    exact absurd h (by decide)
  have hbrace : c ≠ '\x7d' := by
    rintro rfl
    exact absurd h (by decide)
  simp [isVariableChar, hcomma, hbrace]

/-- The variable of a parameter that is made for an operation is closed. -/
theorem isClosed_of_mem_parameters {settings : GeneratorSettings} {service : String}
    {pagination : Pagination} {errors : List ErrorDescriptor} {o : Operation} {p : Parameter}
    (hp : p ∈ (ofOperation settings service pagination errors o).parameters) :
    IsClosed p.variableName := by
  simp only [ofOperation, inputParameters] at hp
  split at hp
  · obtain ⟨m, -, before, rfl⟩ := Parameter.exists_ofMember_of_mem hp
    obtain ⟨n, -, hname, -⟩ := firstFree_spec before
      (variableOf_candidate_injective (Parameter.wantedName m.info) (Parameter.separator m.info))
    have hplain : IsPlainName (firstFree variableOf before (Parameter.wantedName m.info)
        (Parameter.separator m.info)) := by
      rw [hname]
      exact isPlainName_candidate (Parameter.isPlainName_wantedName _)
        (Parameter.isPlainName_separator _) n
    exact fun c hc => isVariableChar_of_isVariablePart (isVariablePart_of_mem_variableOf hplain hc)
  · rw [List.mem_singleton.mp hp]
    exact (by decide : IsClosed (variableOf Parameter.restName))

/-- When the record in a call is read back as the names of the members and the variables that it
pairs with them, in order.  Of a signature without a parameter for all arguments it is exactly when
no name is a word with a newline behind it, and no variable holds a comma or a closing brace; any
other name may hold what it likes.  The variables of a signature that is made for an operation hold
neither, so that only its names matter. -/
theorem call_is_read_back_iff {s : Signature} (h : ∀ p ∈ s.parameters, p.rest = false)
    (dispatcher : String) :
    (readCall? (callWords dispatcher s) (callLine dispatcher s) = some (s.parameters.map pairOf) ↔
      (∀ p ∈ s.parameters, ¬ IsBrokenWord p.modelName) ∧
        ∀ p ∈ s.parameters, IsClosed p.variableName) ∧
    ∀ settings service pagination errors o, s = ofOperation settings service pagination errors o →
      (readCall? (callWords dispatcher s) (callLine dispatcher s) =
          some (s.parameters.map pairOf) ↔
        ∀ p ∈ s.parameters, ¬ IsBrokenWord p.modelName) := by
  rw [readCall?_callLine h, readRecord?_callFields_iff]
  refine ⟨Iff.rfl, ?_⟩
  rintro settings service pagination errors o rfl
  exact and_iff_left fun p hp => isClosed_of_mem_parameters hp

/-- A signature with names that look like other parts of a call. -/
def tangledSignature : Signature where
  command := "aws s3 tangle"
  operation := "tangle"
  modelName := "Tangle"
  service := "s3"
  parameters :=
    [{ name := "plain", modelName := "Plain_1", type := .plain .string },
      { name := "max-keys", modelName := "A: $b, C\x7d", type := .plain .int },
      { name := "quoted", modelName := "\"D\\\": $e", type := .plain .string },
      { name := "broken", modelName := "F\nG", type := .plain .string }]
  returnType := .plain .nothing

/-- These names are read back, but not one more that is a word with a newline behind it. -/
theorem tangledSignature_is_read_back :
    readCall? "    call s3 Tangle " (callLine "call" tangledSignature) =
        some [("Plain_1", "plain"), ("A: $b, C\x7d", "max_keys"), ("\"D\\\": $e", "quoted"),
          ("F\nG", "broken")] ∧
      readCall? "    call s3 Tangle " (callLine "call" { tangledSignature with
        parameters := [{ name := "h", modelName := "H\n", type := .plain .string }] }) ≠
          some [("H\n", "h")] := by
  refine ⟨(call_is_read_back_iff (s := tangledSignature) (by decide) "call").1.mpr
    ⟨by decide, by decide⟩, fun heq => ?_⟩
  have hbroken := ((call_is_read_back_iff (by decide) "call").1.mp heq).1
  exact absurd hbroken (by decide)

end Signature

end ServiceShell
