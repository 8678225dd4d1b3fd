import ServiceShell.Proofs.Json.Parsed
import ServiceShell.Proofs.Json.RoundTrip
import ServiceShell.Proofs.Result
import ServiceShell.Proofs.Settings.Record
import ServiceShell.Settings.Change

/-!
# Settings that can be stored

Settings can be stored if their record is written as JSON text from which they are read back.  All
settings that are ever at hand are such: those that were read from a document, those that come of a
change, and the defaults.

Main results:

- Definition `Settings.IsStorable`: settings that are read back from the text of their record.
- Theorem `Settings.isStorable_of_decode`: settings that were read from a parsed document.
- Theorem `Settings.isStorable_of_change`: settings that come of a change.
-/

namespace ServiceShell

open Document Record

/-- Settings that are read back from the text of their record. -/
structure Settings.IsStorable (s : Settings) : Prop where
  /-- The keys of completions are patterns. -/
  patterns : s.generator.HasPatterns
  /-- JSON text can hold the record. -/
  writable : s.encode.IsMadeOf Json.IsWritable

/-! ## Records that can be written -/

/-- What it takes for the record of settings to be written. -/
theorem Settings.isMadeOf_encode {s : Settings}
    (hdepth : ∀ n, s.generator.maxDepth = some n → HasFewDigits n)
    (hworkers : HasFewDigits s.generator.workers)
    (hnames : (s.generator.completions.map Prod.fst).Nodup) :
    s.encode.IsMadeOf Json.IsWritable := by
  have hlimit : (encodeInt? s.generator.maxDepth).IsMadeOf Json.IsWritable := by
    cases hget : s.generator.maxDepth with
    | none => exact .scalar trivial
    | some n => exact .scalar (hdepth n hget)
  have hdirectory : (ofText? s.outputDir).IsMadeOf Json.IsWritable := by
    cases s.outputDir <;> exact .scalar trivial
  have hcompletions : (ofPairs (s.generator.completions.map fun c => (c.1, .text c.2))).IsMadeOf
      Json.IsWritable := by
    refine .ofPairs (by simpa [Function.comp_def] using hnames) ?_
    intro p hp
    obtain ⟨c, -, rfl⟩ := List.mem_map.mp hp
    exact .scalar trivial
  have hgenerator : s.generator.encode.IsMadeOf Json.IsWritable := by
    refine .ofPairs (by simp) ?_
    simp only [List.forall_mem_cons]
    exact ⟨.scalar trivial, hlimit, .scalar hworkers, .scalar trivial, .scalar trivial,
      hcompletions, by simp⟩
  have houtput : (ofPairs [("format", .text s.format)]).IsMadeOf Json.IsWritable :=
    .ofPairs (by simp) (List.forall_mem_singleton.mpr (.scalar trivial))
  refine .ofPairs (by simp) ?_
  simp only [List.forall_mem_cons]
  exact ⟨hdirectory, hgenerator, houtput, by simp⟩

/-- The limit that settings have by default has few digits. -/
theorem hasFewDigits_sixteen : HasFewDigits 16 :=
  hasFewDigits_of_lt (show _ < 10 ^ 2 by decide) Nat.zero_lt_two (by decide)

/-- The defaults can be stored. -/
theorem Settings.isStorable_default : ({} : Settings).IsStorable := by
  refine ⟨nofun, isMadeOf_encode ?_ (hasFewDigits_of_lt_ten (by decide)) List.nodup_nil⟩
  rintro _ ⟨⟩
  exact hasFewDigits_sixteen

/-! ## Settings that were read -/

/-- An integer that was read from a parsed document has few digits. -/
theorem hasFewDigits_of_read {d : Document} (hd : d.IsMadeOf Json.IsParsed) {n : Int}
    (h : integer d = .read n) : HasFewDigits n := by
  refine hasFewDigits_of_integer ?_ h
  rintro m rfl
  exact hd.of_scalar

theorem hasFewDigits_of_optional {d : Document} (hd : d.IsMadeOf Json.IsParsed) {n : Int}
    (h : optional integer d = .read (some n)) : HasFewDigits n := by
  unfold Record.optional at h
  split at h
  · cases h
  · obtain ⟨m, hm, heq⟩ := Reading.map_eq_read_iff.mp h
    cases heq
    exact hasFewDigits_of_read hd hm

/-- Completions that were read from a parsed document have distinct keys. -/
theorem nodup_of_readCompletions {d : Document} (hd : d.IsMadeOf Json.IsParsed)
    {completions : List (String × String)} (h : readCompletions d = .read completions) :
    (completions.map Prod.fst).Nodup := by
  obtain ⟨rfl, -⟩ := readCompletions_eq_read_iff.mp h
  have hdistinct := hd.names.distinct
  rw [Fields.keys, List.map_map, List.map_map] at hdistinct
  refine List.Nodup.of_map Scalar.text ?_
  rw [List.map_map]
  exact hdistinct

/-- Settings for generation that were read from a parsed document. -/
theorem GeneratorSettings.IsReadFrom.storable {fields : Fields} {s : GeneratorSettings}
    (h : s.IsReadFrom fields) (hfields : (Document.object fields).IsMadeOf Json.IsParsed) :
    (∀ n, s.maxDepth = some n → HasFewDigits n) ∧ HasFewDigits s.workers ∧
      (s.completions.map Prod.fst).Nodup := by
  obtain ⟨-, hdepth, hworkers, -, -, hcompletions⟩ := h
  refine ⟨?_, ?_, ?_⟩
  · intro n hn
    cases hget : Fields.get? "max_depth" fields with
    | none =>
        rw [hget, hn] at hdepth
        cases hdepth
        exact hasFewDigits_sixteen
    | some d =>
        rw [hget, hn] at hdepth
        exact hasFewDigits_of_optional (hfields.get? hget) hdepth
  · cases hget : Fields.get? "workers" fields with
    | none =>
        rw [hget] at hworkers
        rw [show s.workers = 1 from hworkers]
        exact hasFewDigits_of_lt_ten (by decide)
    | some d =>
        rw [hget] at hworkers
        exact hasFewDigits_of_read (hfields.get? hget) hworkers
  · cases hget : Fields.get? "dynamic_completions" fields with
    | none =>
        rw [hget] at hcompletions
        rw [show s.completions = [] from hcompletions]
        exact List.nodup_nil
    | some d =>
        rw [hget] at hcompletions
        exact nodup_of_readCompletions (hfields.get? hget) hcompletions

/-- Settings that were read from a parsed document can be stored. -/
theorem Settings.isStorable_of_decode {d : Document} {s : Settings}
    (hd : d.IsMadeOf Json.IsParsed) (h : decode d = .ok s) : s.IsStorable := by
  obtain ⟨fields, rfl, hread⟩ := decode_eq_ok_iff.mp h
  refine ⟨hread.hasPatterns, ?_⟩
  have hgenerator := hread.generator
  cases hget : Fields.get? "generator" fields with
  | none =>
      rw [hget] at hgenerator
      obtain ⟨outputDir, generator, format⟩ := s
      obtain rfl : generator = {} := hgenerator
      refine isMadeOf_encode ?_ (hasFewDigits_of_lt_ten (show 1 < 10 ^ 1 by decide)) List.nodup_nil
      rintro _ ⟨⟩
      exact hasFewDigits_sixteen
  | some part =>
      rw [hget] at hgenerator
      obtain ⟨inner, rfl, hinner⟩ := GeneratorSettings.read_eq_read_iff.mp hgenerator
      obtain ⟨hdepth, hworkers, hnames⟩ := hinner.storable (hd.get? hget)
      exact isMadeOf_encode hdepth hworkers hnames

/-! ## Settings that come of a change -/

theorem isParsed_of_isWritable : ∀ value : Scalar, Json.IsWritable value → Json.IsParsed value
  | .null, _ | .bool _, _ | .text _, _ | .number (.float _), _ => trivial
  | .number (.int _), h => h

/-- The value that a text stands for is made of what JSON text can hold. -/
theorem isMadeOf_of_coerce {current value : Document} {text : String}
    (h : coerce current text = .ok value) : value.IsMadeOf Json.IsParsed := by
  unfold coerce at h
  split at h
  · cases h
    exact .scalar trivial
  · split at h
    · cases h
      exact .scalar trivial
    · split at h
      · rename_i n hn
        cases h
        exact .scalar (Text.hasFewDigits_of_readInteger? hn)
      · cases h
    · split at h
      · rename_i d hd
        cases h
        exact Json.isMadeOf_of_parse hd
      · cases h
      · cases h
    · cases h
      exact .scalar trivial

/-- A change puts nothing else into the fields. -/
theorem isMadeOf_of_changeAt {text : String} {names : List String} {fields changed : Fields}
    {value : Document} (hfields : (Document.object fields).IsMadeOf Json.IsParsed)
    (h : changeAt text names fields = .ok (value, changed)) :
    (Document.object changed).IsMadeOf Json.IsParsed := by
  induction names generalizing fields changed with
  | nil => cases h
  | cons name rest ih =>
      cases rest with
      | nil =>
          rw [changeAt] at h
          split at h
          · cases h
          · obtain ⟨_, hcoerce, heq⟩ := bind_eq_ok_iff.mp h
            cases heq
            exact hfields.put name (isMadeOf_of_coerce hcoerce)
      | cons other more =>
          rw [changeAt] at h
          split at h
          · rename_i inner hinner
            obtain ⟨⟨_, innerChanged⟩, hinnerChanged, heq⟩ := bind_eq_ok_iff.mp h
            cases heq
            exact hfields.put name (ih (hfields.get? hinner) hinnerChanged)
          · cases h
          · simp

/-- Settings that come of a change can be stored. -/
theorem Settings.isStorable_of_change {s changed : Settings} {key text : String}
    {value : Document} (hs : s.IsStorable) (h : s.change key text = .ok (value, changed)) :
    changed.IsStorable := by
  obtain ⟨⟨_, fields⟩, hchange, h⟩ := bind_eq_ok_iff.mp h
  have hfields : (Document.object s.encode.fields).IsMadeOf Json.IsParsed :=
    hs.writable.mono isParsed_of_isWritable
  cases hdecode : decode (.object fields) with
  | error failure =>
      simp only [hdecode] at h
      cases h
  | ok settings =>
      simp only [hdecode] at h
      cases h
      exact isStorable_of_decode (isMadeOf_of_changeAt hfields hchange) hdecode

end ServiceShell
