import Mathlib.Data.Set.List
import ServiceShell.Proofs.Record.Fault
import ServiceShell.Proofs.Settings.Layer
import ServiceShell.Proofs.Settings.Storable

/-!
# Patterns that cannot be checked

The keys of completions are checked one by one: a text that is no pattern is refused, but one that
asks for more than a pattern can hold ends the check altogether.  This module says which documents
of settings have such a text, and that putting them over settings that were loaded changes nothing
about it.

Main results:

- Definition `Pattern.StopAt`: texts of which the first that is no pattern cannot be checked.
- Definition `Fields.StopCheck`: settings whose completions have such texts as keys.
- Theorem `Settings.faults_read_iff`: only in these settings a rule cannot be applied.
- Theorem `stopCheck_fieldsOver_iff`: settings that were loaded add nothing to them.
-/

namespace ServiceShell

open Document Record

/-! ## Texts -/

namespace Pattern

/-- Whether a text asks for more than a pattern can hold: too many repetitions, or too much to look
back at. -/
def IsOutOfRange (source : String) : Prop :=
  ∃ refusal, parse source = .error refusal ∧
    (refusal.complaint = .tooManyRepetitions ∨ refusal.complaint = .tooWide)

/-- Of the texts that are no patterns, the first is out of range. -/
def StopAt (sources : List String) : Prop :=
  ∃ before source after, sources = before ++ source :: after ∧
    (∀ other ∈ before, ∃ tree, parse other = .ok tree) ∧ IsOutOfRange source

theorem patternCause?_eq_none_iff {source : String} :
    patternCause? source = none ↔ ∃ tree, parse source = .ok tree := by
  unfold patternCause?
  cases parse source <;> simp

/-- A text is out of range where the rule for patterns cannot be applied to it. -/
theorem isOutOfRange_iff {source : String} :
    IsOutOfRange source ↔ ∃ fault, patternCause? source = some (.unchecked fault) := by
  unfold IsOutOfRange patternCause?
  cases parse source with
  | ok tree => simp
  | error refusal =>
      obtain ⟨complaint, exhausted⟩ := refusal
      cases complaint <;> simp [refusedPattern]

theorem stopAt_iff {sources : List String} :
    StopAt sources ↔ ∃ fault, sources.findSome? patternCause? = some (.unchecked fault) := by
  simp only [List.findSome?_eq_some_iff, StopAt, isOutOfRange_iff, patternCause?_eq_none_iff]
  constructor
  · rintro ⟨before, source, after, rfl, hbefore, fault, hfault⟩
    exact ⟨fault, before, source, after, rfl, hfault, hbefore⟩
  · rintro ⟨fault, before, source, after, rfl, hfault, hbefore⟩
    exact ⟨before, source, after, rfl, hbefore, fault, hfault⟩

end Pattern

/-! ## Completions -/

theorem texts_eq_read_iff {d : Document} {pairs : List (String × String)} :
    texts d = .read pairs ↔ d = ofPairs (pairs.map fun c => (c.1, .text c.2)) := by
  rw [ofPairs, List.map_map]
  cases d with
  | object fields =>
      rw [texts, readTexts_eq_read_iff, object.injEq]
      rfl
  | scalar | list => simp [texts, Reading.refuse]

theorem not_faults_texts (d : Document) : ¬ (texts d).Faults := by
  have hfields : ∀ fields, ¬ (readTexts fields).Faults := by
    intro fields
    induction fields with
    | nil => simp [readTexts]
    | cons field rest ih =>
        unfold readTexts
        split
        · simp
        · rename_i heq
          cases heq
          simp [ih, not_faults_text]
        · simp
  cases d with
  | object fields => exact hfields fields
  | scalar | list => simp [texts]

theorem faults_checkPatterns_iff {completions : List (String × String)} :
    (checkPatterns completions).Faults ↔ Pattern.StopAt (completions.map Prod.fst) := by
  rw [Pattern.stopAt_iff, List.findSome?_map]
  unfold checkPatterns
  change _ ↔ ∃ fault, completions.findSome? (fun c => patternCause? c.1) = _
  cases completions.findSome? fun c => patternCause? c.1 <;> simp

/-- Completions cannot be checked where they are texts by name, and the names stop the check. -/
theorem faults_readCompletions_iff {d : Document} :
    (readCompletions d).Faults ↔
      ∃ completions : List (String × String),
        d = ofPairs (completions.map fun c => (c.1, .text c.2)) ∧
          Pattern.StopAt (completions.map Prod.fst) := by
  rw [readCompletions, Reading.faults_bind_iff]
  simp only [not_faults_texts, false_or, texts_eq_read_iff, faults_checkPatterns_iff]

/-! ## Settings -/

/-- The completions of settings are texts by name, and the names stop the check. -/
def Fields.StopCheck (fields : Fields) : Prop :=
  ∃ completions : List (String × String),
    getIn? generatorPart "dynamic_completions" fields =
        some (ofPairs (completions.map fun c => (c.1, .text c.2))) ∧
      Pattern.StopAt (completions.map Prod.fst)

theorem Fields.stopCheck_iff {fields : Fields} :
    fields.StopCheck ↔
      ∃ d, getIn? generatorPart "dynamic_completions" fields = some d ∧
        (readCompletions d).Faults := by
  simp only [faults_readCompletions_iff, StopCheck]
  constructor
  · rintro ⟨completions, hget, hstop⟩
    exact ⟨_, hget, completions, rfl, hstop⟩
  · rintro ⟨_, hget, completions, rfl, hstop⟩
    exact ⟨completions, hget, hstop⟩

theorem GeneratorSettings.faults_read_iff {d : Document} :
    (read d).Faults ↔
      ∃ completions, d.get? "dynamic_completions" = some completions ∧
        (readCompletions completions).Faults := by
  rw [read, faults_record_iff]
  simp only [Reading.faults_seq_iff, Reading.faults_map_iff, not_faults_fieldD not_faults_text,
    not_faults_fieldD not_faults_integer, not_faults_fieldD not_faults_boolean,
    not_faults_fieldD (not_faults_optional not_faults_integer), false_or, faults_fieldD_iff]
  cases d with
  | object fields => simp [get?, Document.fields, fields?, readCompletions]
  | scalar | list => simp [get?, Document.fields, fields?]

theorem not_faults_outputPart (d : Document) :
    ¬ (record "OutputConfig" (fun output => fieldD output "format" "auto" text) d).Faults := by
  rw [faults_record_iff]
  rintro ⟨fields, -, hfields⟩
  exact not_faults_fieldD not_faults_text hfields

/-- A rule cannot be applied to settings where their completions stop the check. -/
theorem Settings.faults_read_iff {d : Document} : (read d).Faults ↔ d.fields.StopCheck := by
  rw [read, faults_record_iff, Fields.stopCheck_iff]
  simp only [Reading.faults_seq_iff, Reading.faults_map_iff,
    not_faults_fieldD (not_faults_optional not_faults_text),
    not_faults_fieldD not_faults_outputPart, false_or, or_false, faults_fieldD_iff,
    GeneratorSettings.faults_read_iff]
  cases d with
  | object fields =>
      simp only [object.injEq, exists_eq_left']
      change _ ↔ ∃ d, ((Fields.get? "generator" fields).getD .null).get? "dynamic_completions" =
        some d ∧ (readCompletions d).Faults
      cases hpart : Fields.get? "generator" fields with
      | none => simp [get?, Document.fields, fields?]
      | some d => simp
  | scalar | list => simp [Document.fields, fields?, Fields.getIn?, get?]

/-! ## Names over each other -/

/-- What is searched for among the names of fields is found among those below, or else among those
above. -/
theorem findSome?_keys_fieldsOver {α : Type} {above : Fields} (h : above.HasNames) (below : Fields)
    (f : Scalar → Option α) :
    (Fields.keys (fieldsOver below above)).findSome? f =
      ((Fields.keys below).findSome? f).or ((Fields.keys above).findSome? f) := by
  induction above generalizing below with
  | nil => simp [fieldsOver, Fields.keys]
  | cons field rest ih =>
      obtain ⟨key, d⟩ := field
      obtain ⟨name, rfl⟩ := h.text key List.mem_cons_self
      rw [fieldsOver, ih h.tail, Fields.keys_put, Fields.keys_cons, List.findSome?_cons]
      split
      · -- A name that is there already was searched before.
        rename_i hmem
        cases hbelow : (Fields.keys below).findSome? f with
        | some a => rfl
        | none => rw [List.findSome?_eq_none_iff.mp hbelow _ hmem]
      · rw [List.findSome?_append, Option.or_assoc, List.findSome?_singleton]
        cases f (.text name) <;> simp

namespace Fields

theorem HasNames.fieldsOver {below above : Fields} (hbelow : below.HasNames)
    (habove : above.HasNames) : (fieldsOver below above).HasNames := by
  induction above generalizing below with
  | nil => exact hbelow
  | cons field rest ih =>
      obtain ⟨key, d⟩ := field
      obtain ⟨name, rfl⟩ := habove.text key List.mem_cons_self
      exact ih (hbelow.put name _) habove.tail

/-! ## Texts over each other -/

/-- What stands under names is text. -/
def HoldTexts (fields : Fields) : Prop :=
  ∀ name d, get? name fields = some d → ∃ value, d = .text value

theorem holdTexts_iff {fields : Fields} (h : fields.HasNames) :
    fields.HoldTexts ↔
      ∃ pairs : List (String × String), fields = pairs.map fun c => (.text c.1, .text c.2) := by
  constructor
  · intro htexts
    have hrange : fields ∈ Set.range (List.map fun c : String × String =>
        (Scalar.text c.1, Document.text c.2)) := by
      rw [Set.range_list_map]
      rintro ⟨key, d⟩ hfield
      obtain ⟨name, rfl⟩ := h.text key (List.mem_map_of_mem hfield)
      obtain ⟨value, rfl⟩ := htexts name d (get?_of_mem h.distinct hfield)
      exact ⟨(name, value), rfl⟩
    obtain ⟨pairs, hpairs⟩ := hrange
    exact ⟨pairs, hpairs.symm⟩
  · rintro ⟨pairs, rfl⟩ name d hget
    obtain ⟨c, -, hc⟩ := List.mem_map.mp (mem_of_get? hget)
    cases hc
    exact ⟨c.2, rfl⟩

/-- Over texts, fields are texts where they were. -/
theorem holdTexts_fieldsOver_iff {below above : Fields} (hbelow : below.HoldTexts)
    (habove : above.HasNames) : (fieldsOver below above).HoldTexts ↔ above.HoldTexts := by
  have hover : ∀ name d, ((get? name below).getD .null).over d = d := by
    intro name d
    refine Document.over_of_isObject_eq_false ?_ d
    cases hget : get? name below with
    | none => rfl
    | some other =>
        obtain ⟨value, rfl⟩ := hbelow name other hget
        rfl
  simp only [HoldTexts, get?_fieldsOver habove]
  refine forall_congr' fun name => ?_
  cases habove : get? name above with
  | none =>
      constructor
      · rintro - _ ⟨⟩
      · intro _ d hd
        exact hbelow name d hd
  | some d => simp [fieldOver, hover]

end Fields

/-! ## Settings over others -/

/-- Why a key cannot be the key of a completion, if it cannot. -/
def keyCause? : Scalar → Option Cause
  | .text name => patternCause? name
  | _ => none

theorem faults_readCompletions_object_iff {fields : Fields} (h : fields.HasNames) :
    (readCompletions (.object fields)).Faults ↔
      fields.HoldTexts ∧
        ∃ fault, fields.keys.findSome? keyCause? = some (.unchecked fault) := by
  have hsearch : ∀ pairs : List (String × String),
      (Fields.keys (pairs.map fun c => (.text c.1, .text c.2))).findSome? keyCause? =
        (pairs.map Prod.fst).findSome? patternCause? := by
    intro pairs
    rw [Fields.keys, List.map_map, List.findSome?_map, List.findSome?_map]
    rfl
  simp only [faults_readCompletions_iff, ofPairs, List.map_map, object.injEq, Pattern.stopAt_iff]
  rw [Fields.holdTexts_iff h]
  constructor
  · rintro ⟨pairs, rfl, hstop⟩
    exact ⟨⟨pairs, rfl⟩, (hsearch pairs).symm ▸ hstop⟩
  · rintro ⟨⟨pairs, rfl⟩, hstop⟩
    exact ⟨pairs, rfl, hsearch pairs ▸ hstop⟩

/-- Over completions with patterns as keys, completions can be checked where they could. -/
theorem faults_readCompletions_over_iff {kind : Scalar → Prop} {below : List (String × String)}
    (hnames : (below.map Prod.fst).Nodup) (hpatterns : ∀ c ∈ below, patternCause? c.1 = none)
    {d : Document} (hd : d.IsMadeOf kind) :
    (readCompletions ((ofPairs (below.map fun c => (c.1, .text c.2))).over d)).Faults ↔
      (readCompletions d).Faults := by
  cases d with
  | object above =>
      have hbelow : Fields.HasNames (below.map fun c => (.text c.1, .text c.2)) := by
        have hkeys : ((below.map fun c => (c.1, Document.text c.2)).map Prod.fst).Nodup := by
          simpa [Function.comp_def] using hnames
        have hpairs := Fields.hasNames_pairs hkeys
        rwa [List.map_map] at hpairs
      have hsearch : (Fields.keys (below.map fun c => (.text c.1, .text c.2))).findSome?
          keyCause? = none := by
        rw [List.findSome?_eq_none_iff]
        intro key hkey
        obtain ⟨f, hf, rfl⟩ := List.mem_map.mp hkey
        obtain ⟨c, hc, rfl⟩ := List.mem_map.mp hf
        exact hpatterns c hc
      rw [ofPairs, List.map_map, Document.over]
      change (readCompletions (.object (fieldsOver (below.map fun c => (.text c.1, .text c.2))
        above))).Faults ↔ _
      rw [faults_readCompletions_object_iff (hbelow.fieldsOver hd.names),
        faults_readCompletions_object_iff hd.names, findSome?_keys_fieldsOver hd.names, hsearch,
        Fields.holdTexts_fieldsOver_iff ((Fields.holdTexts_iff hbelow).mpr ⟨below, rfl⟩) hd.names,
        Option.none_or]
  | scalar | list => rfl

/-- Over settings that were loaded, settings stop the check where they did alone. -/
theorem stopCheck_fieldsOver_iff {kind : Scalar → Prop} {user : Settings} (huser : user.IsStorable)
    {project : Fields} (hproject : (Document.object project).IsMadeOf kind)
    (hopen : ∀ d, Fields.get? generatorPart (fieldsOver user.encode.fields project) = some d →
      d.isObject = true) :
    (fieldsOver user.encode.fields project).StopCheck ↔ project.StopCheck := by
  have hbelow : Fields.getIn? generatorPart "dynamic_completions" user.encode.fields =
      some (ofPairs (user.generator.completions.map fun c => (c.1, .text c.2))) := rfl
  have hread := readCompletions_eq_read_iff.mpr ⟨rfl, huser.patterns⟩
  have hparsed := (huser.writable.mono isParsed_of_isWritable).object_fields
  have hnames := nodup_of_readCompletions (hparsed.getIn? hbelow) hread
  rw [Fields.stopCheck_iff, Fields.stopCheck_iff, getIn?_fieldsOver hproject hopen, hbelow]
  cases hget : Fields.getIn? generatorPart "dynamic_completions" project with
  | none => simp [fieldOver, hread]
  | some d =>
      have hover := faults_readCompletions_over_iff hnames huser.patterns (hproject.getIn? hget)
      simpa [fieldOver] using hover

end ServiceShell
