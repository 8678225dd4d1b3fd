import ServiceShell.Proofs.Document.Made
import ServiceShell.Proofs.Settings.Record
import ServiceShell.Settings.Layers

/-!
# Layers of settings, one setting at a time

What a layer says about settings is a table: for each setting a document, where the layer sets it.
Such tables are put on top of each other setting by setting.  So it can be said of a single setting
where it comes from, although the program puts whole documents on top of each other.

Main results:

- Definition `Layer`: the documents that a layer has for the settings, and `Layer.overlay`.
- Definition `Settings.IsTakenFrom`: settings that were read from the documents of a layer.
- Theorem `Layer.ofFields_fieldsOver`: documents over each other are tables over each other.
- Theorem `Settings.IsReadFrom.isTakenFrom`: a record of settings is read setting by setting.
-/

namespace ServiceShell

open Document Record

/-! ## Tables -/

/-- The documents that a layer has for the settings, each where the layer sets it. -/
@[ext] structure Layer where
  /-- For the directory for generated files. -/
  outputDir : Option Document := none
  /-- For the first word of every command. -/
  commandPrefix : Option Document := none
  /-- For the limit of depth. -/
  maxDepth : Option Document := none
  /-- For the number of workers. -/
  workers : Option Document := none
  /-- For the command that bodies call. -/
  dispatcher : Option Document := none
  /-- For whether lists are unwrapped. -/
  unwrapListOutputs : Option Document := none
  /-- For the output format. -/
  format : Option Document := none
  /-- For the completion under a pattern. -/
  completion : String → Option Document := fun _ => none

/-- The field of a part of fields. -/
def Fields.getIn? (part key : String) (fields : Fields) : Option Document :=
  ((get? part fields).getD .null).get? key

namespace Layer

/-- A layer over another one: what it leaves open is as the other one has it. -/
def overlay (below above : Layer) : Layer where
  outputDir := above.outputDir.or below.outputDir
  commandPrefix := above.commandPrefix.or below.commandPrefix
  maxDepth := above.maxDepth.or below.maxDepth
  workers := above.workers.or below.workers
  dispatcher := above.dispatcher.or below.dispatcher
  unwrapListOutputs := above.unwrapListOutputs.or below.unwrapListOutputs
  format := above.format.or below.format
  completion name := (above.completion name).or (below.completion name)

/-- Layers on top of each other, the highest one first. -/
def stack : List Layer → Layer
  | [] => {}
  | above :: rest => (stack rest).overlay above

theorem empty_overlay (layer : Layer) : overlay {} layer = layer := by
  ext <;> simp [overlay]

theorem overlay_assoc (low middle high : Layer) :
    (low.overlay middle).overlay high = low.overlay (middle.overlay high) := by
  ext <;> simp [overlay, Option.or_assoc]

/-- What fields say about the settings. -/
def ofFields (fields : Fields) : Layer where
  outputDir := Fields.get? "output_dir" fields
  commandPrefix := Fields.getIn? generatorPart "command_prefix" fields
  maxDepth := Fields.getIn? generatorPart "max_depth" fields
  workers := Fields.getIn? generatorPart "workers" fields
  dispatcher := Fields.getIn? generatorPart "dispatcher" fields
  unwrapListOutputs := Fields.getIn? generatorPart "unwrap_list_outputs" fields
  format := Fields.getIn? "output" "format" fields
  completion name :=
    ((Fields.getIn? generatorPart "dynamic_completions" fields).getD .null).get? name

end Layer

/-! ## Settings from a table -/

/-- Every setting was read from the document that a layer has for it, or is the default where it has
none; the limit of depth has a reader of its own. -/
structure Settings.IsTakenFrom (limit : Document → Reading (Option Int)) (layer : Layer)
    (s : Settings) : Prop where
  /-- The directory for generated files. -/
  outputDir : IsTaken (optional text) none layer.outputDir s.outputDir
  /-- The first word of every command. -/
  commandPrefix : IsTaken text "aws" layer.commandPrefix s.generator.commandPrefix
  /-- The limit of depth. -/
  maxDepth : IsTaken limit (some 16) layer.maxDepth s.generator.maxDepth
  /-- The number of workers. -/
  workers : IsTaken integer 1 layer.workers s.generator.workers
  /-- The command that bodies call. -/
  dispatcher : IsTaken text "aws-dispatch" layer.dispatcher s.generator.dispatcher
  /-- Whether lists are unwrapped. -/
  unwrapListOutputs : IsTaken boolean true layer.unwrapListOutputs s.generator.unwrapListOutputs
  /-- The word for the output format. -/
  format : IsTaken text "auto" layer.format s.format
  /-- The completions, one by one. -/
  completions : ∀ name, IsTaken (fun d => some <$> text d) none (layer.completion name)
    (s.generator.completions.lookup name)

/-- The parts of fields that are there are objects. -/
structure Fields.IsOpen (fields : Fields) : Prop where
  /-- The settings for generation. -/
  generator : ∀ d, get? generatorPart fields = some d → d.isObject = true
  /-- The settings for output. -/
  output : ∀ d, get? "output" fields = some d → d.isObject = true
  /-- The completions. -/
  completions :
    ∀ d, getIn? generatorPart "dynamic_completions" fields = some d → d.isObject = true

theorem lookup_map_text (pairs : List (String × String)) (name : String) :
    (pairs.map fun p => (p.1, Document.text p.2)).lookup name = (pairs.lookup name).map .text := by
  induction pairs with
  | nil => rfl
  | cons p rest ih =>
      rw [List.map_cons, List.lookup_cons, List.lookup_cons]
      split
      · rfl
      · exact ih

/-- The part with the settings for generation is an object, if it is there, and they were read from
it. -/
theorem Settings.IsReadFrom.generatorPart_isReadFrom {fields : Fields} {s : Settings}
    (h : s.IsReadFrom fields) :
    (∀ d, Fields.get? generatorPart fields = some d → d.isObject = true) ∧
      s.generator.IsReadFrom ((Fields.get? generatorPart fields).getD .null).fields := by
  have hgenerator := h.generator
  change IsTaken _ _ (Fields.get? generatorPart fields) _ at hgenerator
  cases hget : Fields.get? generatorPart fields with
  | none =>
      rw [hget] at hgenerator
      rw [show s.generator = {} from hgenerator]
      exact ⟨nofun, rfl, rfl, rfl, rfl, rfl, rfl⟩
  | some d =>
      rw [hget] at hgenerator
      obtain ⟨inner, rfl, hinner⟩ := GeneratorSettings.read_eq_read_iff.mp hgenerator
      refine ⟨?_, hinner⟩
      rintro _ ⟨⟩
      rfl

/-- A record of settings is read setting by setting, and its parts are objects. -/
theorem Settings.IsReadFrom.isTakenFrom {fields : Fields} {s : Settings}
    (h : s.IsReadFrom fields) :
    s.IsTakenFrom (optional integer) (.ofFields fields) ∧ fields.IsOpen := by
  have hpart := h.generatorPart_isReadFrom
  obtain ⟨houtput, -, hformat⟩ := h
  have houtputPart : (∀ d, Fields.get? "output" fields = some d → d.isObject = true) ∧
      IsTaken text "auto" (Fields.getIn? "output" "format" fields) s.format := by
    rw [Fields.getIn?]
    cases hget : Fields.get? "output" fields with
    | none =>
        rw [hget] at hformat
        exact ⟨nofun, hformat⟩
    | some d =>
        rw [hget] at hformat
        obtain ⟨inner, rfl, hinner⟩ := record_eq_read_iff.mp hformat
        refine ⟨?_, fieldD_eq_read_iff.mp hinner⟩
        rintro _ ⟨⟩
        rfl
  have hcompletions :
      (∀ d, Fields.getIn? generatorPart "dynamic_completions" fields = some d →
        d.isObject = true) ∧
      ∀ name, IsTaken (fun d => some <$> text d) none
        (((Fields.getIn? generatorPart "dynamic_completions" fields).getD .null).get? name)
        (s.generator.completions.lookup name) := by
    have hread := hpart.2.completions
    change IsTaken _ _ (Fields.getIn? generatorPart "dynamic_completions" fields) _ at hread
    cases hget : Fields.getIn? generatorPart "dynamic_completions" fields with
    | none =>
        rw [hget] at hread
        rw [show s.generator.completions = [] from hread]
        exact ⟨nofun, fun name => rfl⟩
    | some d =>
        rw [hget] at hread
        obtain ⟨rfl, -⟩ := readCompletions_eq_read_iff.mp hread
        refine ⟨?_, ?_⟩
        · rintro _ ⟨⟩
          rfl
        · intro name
          change IsTaken _ _ (Fields.get? name (List.map _ _)) _
          rw [Fields.get?_pairs, lookup_map_text]
          cases s.generator.completions.lookup name <;> rfl
  exact ⟨⟨houtput, hpart.2.commandPrefix, hpart.2.maxDepth, hpart.2.workers, hpart.2.dispatcher,
    hpart.2.unwrapListOutputs, houtputPart.2, hcompletions.2⟩, hpart.1, houtputPart.1,
    hcompletions.1⟩

/-! ## Documents over each other -/

/-- The field that comes of two, one over the other. -/
def fieldOver (below above : Option Document) : Option Document :=
  match above with
  | some d => some ((below.getD .null).over d)
  | none => below

theorem Document.over_of_isObject_eq_false {below : Document} (h : below.isObject = false)
    (d : Document) : below.over d = d := by
  cases d with
  | object fields =>
      cases below with
      | object => cases h
      | scalar | list => rfl
  | scalar | list => rfl

/-- Over what is no object, a field counts as a whole. -/
theorem fieldOver_eq_or {below : Option Document} (h : ∀ d, below = some d → d.isObject = false)
    (above : Option Document) : fieldOver below above = above.or below := by
  cases above with
  | none => rfl
  | some d =>
      have hbelow : (below.getD .null).isObject = false := by
        cases below with
        | none => rfl
        | some d => exact h d rfl
      rw [fieldOver, Document.over_of_isObject_eq_false hbelow]
      rfl

theorem Fields.get?_eq_none {name : String} {fields : Fields} (h : .text name ∉ keys fields) :
    get? name fields = none := by
  cases hget : get? name fields with
  | none => rfl
  | some d => exact absurd (List.mem_map_of_mem (mem_of_get? hget)) h

/-- A field of an object over another one. -/
theorem get?_fieldsOver {above : Fields} (h : above.HasNames) (below : Fields) (name : String) :
    Fields.get? name (fieldsOver below above) =
      fieldOver (Fields.get? name below) (Fields.get? name above) := by
  induction above generalizing below with
  | nil => rfl
  | cons field rest ih =>
      obtain ⟨key, d⟩ := field
      obtain ⟨other, rfl⟩ := h.text key List.mem_cons_self
      rw [fieldsOver, ih h.tail, Fields.get?_put, Fields.get?]
      by_cases hname : name = other
      · subst hname
        rw [if_pos rfl, if_pos rfl, Fields.get?_eq_none (List.nodup_cons.mp h.distinct).1]
        rfl
      · rw [if_neg hname, if_neg (fun heq => hname (Scalar.text.inj heq).symm)]

/-- A field of a part that was put over another one. -/
theorem get?_fieldOver {below above : Option Document}
    (hnames : ∀ d, above = some d → d.fields.HasNames)
    (hopen : ∀ d, fieldOver below above = some d → d.isObject = true) (name : String) :
    ((fieldOver below above).getD .null).get? name =
      fieldOver ((below.getD .null).get? name) ((above.getD .null).get? name) := by
  cases above with
  | none => rfl
  | some d =>
      have hobject := hopen _ rfl
      have hfields := hnames d rfl
      change ((below.getD .null).over d).get? name = _
      cases d with
      | object fields =>
          cases below.getD .null with
          | object fieldsBelow => exact get?_fieldsOver hfields fieldsBelow name
          | scalar | list =>
              change Fields.get? name fields = fieldOver none (Fields.get? name fields)
              cases Fields.get? name fields with
              | none => rfl
              | some d => rw [fieldOver, Option.getD_none, Document.over_null]
      | scalar | list => cases hobject

theorem Document.IsMadeOf.hasNames_fields {kind : Scalar → Prop} {d : Document}
    (h : d.IsMadeOf kind) : d.fields.HasNames := by
  cases h with
  | object _ hnames => exact hnames
  | scalar | list => exact .nil

/-- What is found in a part of an object. -/
theorem Document.IsMadeOf.getIn? {kind : Scalar → Prop} {fields : Fields}
    (h : (Document.object fields).IsMadeOf kind) {part key : String} {d : Document}
    (hget : Fields.getIn? part key fields = some d) : d.IsMadeOf kind := by
  rw [Fields.getIn?] at hget
  cases hpart : Fields.get? part fields with
  | none =>
      rw [hpart] at hget
      cases hget
  | some inner =>
      rw [hpart] at hget
      have hinner := h.get? hpart
      cases inner with
      | object fields => exact hinner.get? hget
      | scalar | list => cases hget

/-- A field of a part of an object over another one. -/
theorem getIn?_fieldsOver {kind : Scalar → Prop} {below above : Fields} {part : String}
    (habove : (Document.object above).IsMadeOf kind)
    (hopen : ∀ d, Fields.get? part (fieldsOver below above) = some d → d.isObject = true)
    (key : String) :
    Fields.getIn? part key (fieldsOver below above) =
      fieldOver (Fields.getIn? part key below) (Fields.getIn? part key above) := by
  rw [get?_fieldsOver habove.names] at hopen
  rw [Fields.getIn?, get?_fieldsOver habove.names,
    get?_fieldOver (fun d hd => (habove.get? hd).hasNames_fields) hopen]
  rfl

/-! ## Tables over each other -/

namespace Layer

/-- What settings that were loaded say. -/
theorem ofFields_encode (s : Settings) :
    ofFields s.encode.fields = {
      outputDir := some (ofText? s.outputDir)
      commandPrefix := some (.text s.generator.commandPrefix)
      maxDepth := some (encodeInt? s.generator.maxDepth)
      workers := some (.int s.generator.workers)
      dispatcher := some (.text s.generator.dispatcher)
      unwrapListOutputs := some (.bool s.generator.unwrapListOutputs)
      format := some (.text s.format)
      completion name := (s.generator.completions.lookup name).map .text } := by
  have hcompletion : ∀ name, (ofFields s.encode.fields).completion name =
      (s.generator.completions.lookup name).map .text := by
    intro name
    rw [← lookup_map_text]
    exact Fields.get?_pairs name _
  rw [← funext hcompletion]
  rfl

/-- Over settings that were loaded, fields say what they say, and leave the rest to them. -/
theorem ofFields_fieldsOver {kind : Scalar → Prop} (s : Settings) {above : Fields}
    (habove : (Document.object above).IsMadeOf kind)
    (hopen : (fieldsOver s.encode.fields above).IsOpen) :
    ofFields (fieldsOver s.encode.fields above) =
      (ofFields s.encode.fields).overlay (ofFields above) := by
  have hgenerator := getIn?_fieldsOver habove hopen.generator
  have hcompletion : ∀ name, (ofFields (fieldsOver s.encode.fields above)).completion name =
      ((ofFields above).completion name).or ((ofFields s.encode.fields).completion name) := by
    intro name
    have hcompletions := hopen.completions
    have hlower : ∀ d, (ofFields s.encode.fields).completion name = some d →
        d.isObject = false := by
      rw [ofFields_encode]
      simp [isObject, fields?]
    rw [hgenerator] at hcompletions
    rw [← fieldOver_eq_or hlower]
    refine Eq.trans ?_ (get?_fieldOver (fun d hd => (habove.getIn? hd).hasNames_fields)
      hcompletions name)
    rw [← hgenerator]
    rfl
  -- what is below is no object, save for the completions, which have texts in their place
  refine Layer.ext ((get?_fieldsOver habove.names _ _).trans (fieldOver_eq_or ?_ _))
    ((hgenerator _).trans (fieldOver_eq_or ?_ _)) ((hgenerator _).trans (fieldOver_eq_or ?_ _))
    ((hgenerator _).trans (fieldOver_eq_or ?_ _)) ((hgenerator _).trans (fieldOver_eq_or ?_ _))
    ((hgenerator _).trans (fieldOver_eq_or ?_ _))
    ((getIn?_fieldsOver habove hopen.output _).trans (fieldOver_eq_or ?_ _)) (funext hcompletion)
  all_goals rintro _ ⟨⟩
  · cases s.outputDir <;> rfl
  · rfl
  · cases s.generator.maxDepth <;> rfl
  · rfl
  · rfl
  · rfl
  · rfl

end Layer

end ServiceShell
