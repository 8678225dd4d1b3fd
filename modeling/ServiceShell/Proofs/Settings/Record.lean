import ServiceShell.Proofs.Record.Inversion
import ServiceShell.Proofs.Record.ReadBack
import ServiceShell.Settings.Record

/-!
# Settings are read back

The record of settings is read as these settings, as long as the keys of their completions are
patterns; and only such settings come out of a record.  What comes out tells of each setting what it
was read from.

Main results:

- Definition `GeneratorSettings.HasPatterns`: the rule that a record of settings is checked by.
- Theorem `Settings.decode_encode`: settings that keep the rule are read back.
- Theorem `Settings.decode_eq_ok_iff`: what settings were read from.
-/

namespace ServiceShell

open Document Record

/-! ## Texts by name -/

theorem readTexts_pairs (pairs : List (String × String)) :
    readTexts (pairs.map fun p => (.text p.1, .text p.2)) = .read pairs := by
  induction pairs with
  | nil => rfl
  | cons p rest ih =>
      rw [List.map_cons, readTexts, ih]
      rfl

/-- Only texts by name are read as such. -/
theorem readTexts_eq_read_iff {fields : Fields} {pairs : List (String × String)} :
    readTexts fields = .read pairs ↔ fields = pairs.map fun p => (.text p.1, .text p.2) := by
  constructor
  · intro h
    induction fields generalizing pairs with
    | nil =>
        cases h
        rfl
    | cons field rest ih =>
        obtain ⟨key, d⟩ := field
        unfold readTexts at h
        split at h
        · cases ‹_ :: _ = []›
        · rename_i name other more heq
          cases heq
          obtain ⟨_, texts, hcons, hrest, rfl⟩ := Reading.seq_eq_read_iff.mp h
          obtain ⟨_, hpair, rfl⟩ := Reading.map_eq_read_iff.mp hcons
          obtain ⟨value, hvalue, rfl⟩ := Reading.map_eq_read_iff.mp hpair
          rw [Reading.under_eq_read_iff, text_eq_read_iff] at hvalue
          rw [ih hrest, hvalue]
          rfl
        · cases h
  · rintro rfl
    exact readTexts_pairs pairs

/-- Texts by name are read back. -/
theorem texts_ofPairs (pairs : List (String × String)) :
    texts (ofPairs (pairs.map fun p => (p.1, .text p.2))) = .read pairs := by
  rw [ofPairs, List.map_map]
  exact readTexts_pairs pairs

/-! ## Patterns -/

/-- Whether the keys of completions are patterns. -/
def GeneratorSettings.HasPatterns (s : GeneratorSettings) : Prop :=
  ∀ c ∈ s.completions, patternCause? c.1 = none

theorem checkPatterns_eq_read_iff {completions checked : List (String × String)} :
    checkPatterns completions = .read checked ↔
      completions = checked ∧ ∀ c ∈ completions, patternCause? c.1 = none := by
  unfold checkPatterns
  split <;> rename_i hcause
  · constructor
    · intro h
      cases h
    · rintro ⟨-, hall⟩
      rw [List.findSome?_eq_none_iff.mpr hall] at hcause
      cases hcause
  · rw [List.findSome?_eq_none_iff] at hcause
    constructor
    · intro h
      cases h
      exact ⟨rfl, hcause⟩
    · rintro ⟨rfl, -⟩
      rfl

/-- Reads completions. -/
def readCompletions (d : Document) : Reading (List (String × String)) :=
  (texts d).bind checkPatterns

/-- Completions are read from an object with texts under patterns. -/
theorem readCompletions_eq_read_iff {d : Document} {completions : List (String × String)} :
    readCompletions d = .read completions ↔
      d = ofPairs (completions.map fun c => (c.1, .text c.2)) ∧
        ∀ c ∈ completions, patternCause? c.1 = none := by
  rw [readCompletions, Reading.bind_eq_read_iff, ofPairs, List.map_map]
  cases d with
  | object fields =>
      simp only [texts, readTexts_eq_read_iff, checkPatterns_eq_read_iff, object.injEq]
      constructor
      · rintro ⟨_, hfields, rfl, hpatterns⟩
        exact ⟨hfields, hpatterns⟩
      · rintro ⟨hfields, hpatterns⟩
        exact ⟨completions, hfields, rfl, hpatterns⟩
  | scalar | list => simp [texts, Reading.refuse]

/-! ## What settings are read from -/

/-- What settings for generation were read from. -/
structure GeneratorSettings.IsReadFrom (fields : Fields) (s : GeneratorSettings) : Prop where
  /-- The first word of every command. -/
  commandPrefix : IsTaken text "aws" (Fields.get? "command_prefix" fields) s.commandPrefix
  /-- The limit of depth. -/
  maxDepth : IsTaken (optional integer) (some 16) (Fields.get? "max_depth" fields) s.maxDepth
  /-- The number of workers. -/
  workers : IsTaken integer 1 (Fields.get? "workers" fields) s.workers
  /-- The command that bodies call. -/
  dispatcher : IsTaken text "aws-dispatch" (Fields.get? "dispatcher" fields) s.dispatcher
  /-- Whether lists are unwrapped. -/
  unwrapListOutputs :
    IsTaken boolean true (Fields.get? "unwrap_list_outputs" fields) s.unwrapListOutputs
  /-- The completions. -/
  completions :
    IsTaken readCompletions [] (Fields.get? "dynamic_completions" fields) s.completions

theorem GeneratorSettings.read_eq_read_iff {d : Document} {s : GeneratorSettings} :
    read d = .read s ↔ ∃ fields, d = .object fields ∧ s.IsReadFrom fields := by
  rw [read, record_eq_read_iff]
  refine exists_congr fun fields => and_congr_right fun _ => ?_
  constructor
  · intro h
    obtain ⟨_, _, hfive, hcompletions, rfl⟩ := Reading.seq_eq_read_iff.mp h
    obtain ⟨_, _, hfour, hunwrap, rfl⟩ := Reading.seq_eq_read_iff.mp hfive
    obtain ⟨_, _, hthree, hdispatcher, rfl⟩ := Reading.seq_eq_read_iff.mp hfour
    obtain ⟨_, _, htwo, hworkers, rfl⟩ := Reading.seq_eq_read_iff.mp hthree
    obtain ⟨_, _, hone, hdepth, rfl⟩ := Reading.seq_eq_read_iff.mp htwo
    obtain ⟨_, hcommand, rfl⟩ := Reading.map_eq_read_iff.mp hone
    rw [fieldD_eq_read_iff] at hcompletions hunwrap hdispatcher hworkers hdepth hcommand
    exact ⟨hcommand, hdepth, hworkers, hdispatcher, hunwrap, hcompletions⟩
  · intro h
    rw [fieldD_eq_read_iff.mpr h.commandPrefix, fieldD_eq_read_iff.mpr h.maxDepth,
      fieldD_eq_read_iff.mpr h.workers, fieldD_eq_read_iff.mpr h.dispatcher,
      fieldD_eq_read_iff.mpr h.unwrapListOutputs]
    change _ <*> fieldD fields "dynamic_completions" [] readCompletions = _
    rw [fieldD_eq_read_iff.mpr h.completions]
    rfl

/-- What all settings were read from. -/
structure Settings.IsReadFrom (fields : Fields) (s : Settings) : Prop where
  /-- The directory for generated files. -/
  outputDir : IsTaken (optional text) none (Fields.get? "output_dir" fields) s.outputDir
  /-- The settings for generation. -/
  generator : IsTaken GeneratorSettings.read {} (Fields.get? "generator" fields) s.generator
  /-- The word for the output format. -/
  format : IsTaken (record "OutputConfig" fun output => fieldD output "format" "auto" text) "auto"
    (Fields.get? "output" fields) s.format

theorem Settings.decode_eq_ok_iff {d : Document} {s : Settings} :
    decode d = .ok s ↔ ∃ fields, d = .object fields ∧ s.IsReadFrom fields := by
  rw [decode, Reading.finish_eq_ok_iff, read, record_eq_read_iff]
  refine exists_congr fun fields => and_congr_right fun _ => ?_
  constructor
  · intro h
    obtain ⟨_, _, htwo, hformat, rfl⟩ := Reading.seq_eq_read_iff.mp h
    obtain ⟨_, _, hone, hgenerator, rfl⟩ := Reading.seq_eq_read_iff.mp htwo
    obtain ⟨_, hdirectory, rfl⟩ := Reading.map_eq_read_iff.mp hone
    rw [fieldD_eq_read_iff] at hformat hgenerator hdirectory
    exact ⟨hdirectory, hgenerator, hformat⟩
  · intro h
    rw [fieldD_eq_read_iff.mpr h.outputDir, fieldD_eq_read_iff.mpr h.generator,
      fieldD_eq_read_iff.mpr h.format]
    rfl

/-! ## Reading back -/

theorem GeneratorSettings.read_encode {s : GeneratorSettings} (h : s.HasPatterns) :
    read s.encode = .read s := by
  refine read_eq_read_iff.mpr ⟨_, rfl, ?_⟩
  constructor <;> rw [Fields.get?_pairs]
  · exact text_text _
  · exact optional_encodeInt? _
  · exact integer_int _
  · exact text_text _
  · exact boolean_bool _
  · exact readCompletions_eq_read_iff.mpr ⟨rfl, h⟩

/-- Settings whose completions have patterns as keys are read back. -/
theorem Settings.decode_encode {s : Settings} (h : s.generator.HasPatterns) :
    decode s.encode = .ok s := by
  refine decode_eq_ok_iff.mpr ⟨_, rfl, ?_⟩
  constructor <;> rw [Fields.get?_pairs]
  · exact optional_ofText? _
  · exact GeneratorSettings.read_encode h
  · rfl

/-- Settings that were read have patterns as keys of their completions. -/
theorem Settings.IsReadFrom.hasPatterns {fields : Fields} {s : Settings} (h : s.IsReadFrom fields) :
    s.generator.HasPatterns := by
  have hgenerator := h.generator
  cases hpart : Fields.get? "generator" fields with
  | none =>
      rw [hpart] at hgenerator
      rw [show s.generator = {} from hgenerator]
      simp [GeneratorSettings.HasPatterns]
  | some d =>
      rw [hpart] at hgenerator
      obtain ⟨inner, -, hinner⟩ := GeneratorSettings.read_eq_read_iff.mp hgenerator
      have hcompletions := hinner.completions
      cases hentry : Fields.get? "dynamic_completions" inner with
      | none =>
          rw [hentry] at hcompletions
          rw [GeneratorSettings.HasPatterns, show s.generator.completions = [] from hcompletions]
          simp
      | some d =>
          rw [hentry] at hcompletions
          exact (readCompletions_eq_read_iff.mp hcompletions).2

end ServiceShell
