import ServiceShell.Proofs.Command.Generate
import ServiceShell.Proofs.Command.Steps
import ServiceShell.Proofs.Module.Lines
import ServiceShell.Proofs.Signature.Batch

/-!
# What is printed and what is written

Two commands show the definitions that are made of a model.  One prints them, the other one writes
the module of the service.  Both join the same texts, but they do so in different ways: the first
puts an empty line between any two definitions, the second puts one above each of them.  What the
first prints is the end of what the second writes, character by character.  Both need to read the
messages on deprecation, and neither gives anything where one of them cannot be read.

Main results:

- Theorem `Module.render_eq_front_append`: a module is what stands in front of the definitions, an
  empty line, and the definitions with an empty line between any two.
- Definition `Signature.AreReadable`: whether all messages on deprecation can be read.
- Theorem `Action.run_printSignatures`: what the first command comes to.
- Theorem `Action.holdsText_of_writeModule`: what the second one writes.
- Theorem `Action.generate_writes_what_is_printed`: the one is the end of the other.
- Theorem `Action.comesTo_generate`: when the second command ends well.
-/

namespace ServiceShell

/-! ## Messages on deprecation -/

namespace Signature

/-- Whether the messages on deprecation in the definitions of some commands can be read. -/
def AreReadable (signatures : List Signature) : Prop :=
  ∀ s ∈ signatures, ∀ message ∈ s.messages, Text.IsReadable message

theorem overlong?_eq_none_iff {signatures : List Signature} :
    overlong? signatures = none ↔ AreReadable signatures := by
  simp only [overlong?, List.findSome?_eq_none_iff, List.mem_flatMap, Text.overlong?_eq_none_iff,
    AreReadable, forall_exists_index, and_imp]
  exact forall_comm.trans (forall_congr' fun s => forall_comm)

instance (signatures : List Signature) : Decidable (AreReadable signatures) :=
  decidable_of_iff _ overlong?_eq_none_iff

end Signature

namespace Job

variable {signatures : List Signature} {w : Workspace}

/-- Messages that can be read leave nothing behind. -/
theorem run_readMessages (h : Signature.AreReadable signatures) :
    (readMessages signatures).run w = (.ok (), w) := by
  rw [readMessages, Signature.overlong?_eq_none_iff.mpr h]
  rfl

/-- A message that cannot be read ends the job. -/
theorem exists_run_readMessages (h : ¬ Signature.AreReadable signatures) :
    ∃ count, (readMessages signatures).run w = (.error (.unexpected (.digits count)), w) := by
  rw [← Signature.overlong?_eq_none_iff] at h
  obtain ⟨count, hcount⟩ := Option.ne_none_iff_exists'.mp h
  rw [readMessages, hcount]
  exact ⟨count, rfl⟩

/-- After the job, the messages are known to be read. -/
theorem areReadable_of_run_readMessages {u : Unit} {later : Workspace}
    (h : (readMessages signatures).run w = (.ok u, later)) :
    Signature.AreReadable signatures ∧ later = w := by
  by_cases hreadable : Signature.AreReadable signatures
  · rw [run_readMessages hreadable] at h
    cases h
    exact ⟨hreadable, rfl⟩
  · obtain ⟨count, hrun⟩ := exists_run_readMessages (w := w) hreadable
    rw [hrun] at h
    cases h

end Job

/-! ## Definitions with empty lines between them -/

/-- The definitions of commands, with an empty line between any two of them. -/
def Signature.listing (dispatcher : String) (signatures : List Signature) : String :=
  "\n\n".intercalate (signatures.map (·.render dispatcher))

/-- Texts with an empty line above each of them have an empty line between any two. -/
theorem join_eq_intercalate {texts : List String} (hne : texts ≠ []) :
    String.join (texts.map fun text => "\n" ++ text ++ "\n") =
      "\n" ++ "\n\n".intercalate texts ++ "\n" := by
  induction texts with
  | nil => exact absurd rfl hne
  | cons text rest ih =>
      cases rest with
      | nil => simp [String.join_cons]
      | cons next rest =>
          have hends : "\n\n" = "\n" ++ "\n" := rfl
          rw [List.map_cons, String.join_cons, ih (List.cons_ne_nil _ _),
            String.intercalate_cons_cons, hends]
          simp only [String.append_assoc]

namespace Module

/-- What stands in front of the definitions of a module: its header and its completers. -/
def front (settings : GeneratorSettings) (service : String) (title : Option String)
    (signatures : List Signature) : String :=
  header (Signature.orElse title (defaultTitle settings.commandPrefix service)) service
    ++ completerSection settings.dispatcher service
      (completers settings.commandPrefix service signatures)

/-- A module is what stands in front of the definitions, an empty line, the definitions with an
empty line between any two, and a last newline. -/
theorem render_eq_front_append {signatures : List Signature} (hne : signatures ≠ [])
    (settings : GeneratorSettings) (service : String) (title : Option String) :
    render settings service title signatures =
      front settings service title signatures ++ "\n"
        ++ Signature.listing settings.dispatcher signatures ++ "\n" := by
  have hmap : (signatures.map fun s => "\n" ++ s.render settings.dispatcher ++ "\n") =
      (signatures.map (·.render settings.dispatcher)).map fun text => "\n" ++ text ++ "\n" := by
    rw [List.map_map]
    rfl
  have hdefinitions : signatures.map (·.render settings.dispatcher) ≠ [] :=
    mt List.map_eq_nil_iff.mp hne
  rw [render, hmap, join_eq_intercalate hdefinitions]
  simp only [front, Signature.listing, String.append_assoc]

end Module

/-! ## Signatures of a model -/

namespace Signature

variable {settings : GeneratorSettings} {service : Option String} {workers : Int}
  {model : Document} {signatures : List Signature}

/-- The name of the service may be found out before. -/
theorem ofModel_some_serviceOf (h : ofModel settings service workers model = .ok signatures) :
    ofModel settings (some (serviceOf model service)) workers model = .ok signatures := by
  have hne := Schema.serviceOf_ne_empty model service
  have hservice : serviceOf model (some (serviceOf model service)) = serviceOf model service := by
    generalize serviceOf model service = name at hne
    unfold serviceOf
    split
    · contradiction
    · rename_i heq
      cases heq
      exact absurd rfl hne
    · rename_i heq
      cases heq
      rfl
  rw [ofModel_eq_ofModelIn, ofModelIn_eq_ok_iff (.refl _), sequential_eq_ok_iff] at h ⊢
  obtain ⟨batch, hbatch, hentries⟩ := h
  obtain ⟨-, errors, herrors, hfields⟩ := Batch.ofModel_eq_ok_iff.mp hbatch
  refine ⟨batch, Batch.ofModel_eq_ok_iff.mpr ⟨fun hempty => absurd hempty hne, errors, herrors, ?_⟩,
    hentries⟩
  rw [hservice, hfields]

/-- The signatures of a model are those of its operations, in their order. -/
theorem map_signature_of_ofModel (h : ofModel settings service workers model = .ok signatures) :
    ∃ batch, Batch.ofModel settings service model = .ok batch ∧
      (Operation.entries model).map batch.signature = signatures.map .ok := by
  rw [ofModel_eq_ofModelIn, ofModelIn_eq_ok_iff (List.Perm.refl _)] at h
  exact sequential_eq_ok_iff.mp h

/-- There are as many as there are operations. -/
theorem length_of_ofModel (h : ofModel settings service workers model = .ok signatures) :
    signatures.length = (Operation.entries model).length := by
  obtain ⟨_, -, hentries⟩ := map_signature_of_ofModel h
  have hlength := congrArg List.length hentries
  rw [List.length_map, List.length_map] at hlength
  exact hlength.symm

end Signature

/-! ## Steps -/

/-- The file at a path holds a text. -/
def Workspace.HoldsText (w : Workspace) (path : Path) (text : String) : Prop :=
  ∃ place, w.files.locate w.directory path = .ok place ∧
    w.files.lookup? place = some (.file text.toUTF8)

namespace Job

/-- A text that was written is in the file at the path. -/
theorem holdsText_of_writeText {path : Path} {text : String} {u : Unit} {w later : Workspace}
    (h : (writeText path text).run w = (.ok u, later)) : later.HoldsText path text := by
  by_cases hadmits : w.files.Admits w.directory w.token path
  · obtain ⟨made, parent, hadmitted⟩ := hadmits
    obtain ⟨files, hrun, hwritten, hlocate⟩ := run_writeText_of_isAdmitted hadmitted text
    rw [hrun] at h
    cases h
    exact ⟨_, hlocate, hwritten.written⟩
  · obtain ⟨e, files, hrun, -⟩ := run_writeText_of_not_admits hadmits text
    rw [hrun] at h
    cases h

end Job

namespace Action

variable {s later : Scene}

theorem run_signatures_eq_ok_iff {settings : GeneratorSettings} {service : Option String}
    {d : Document} {made : List Signature} :
    (signatures settings service d).run s = (.ok made, later) ↔
      Signature.ofModel settings service settings.workers d = .ok made ∧
        later = { s with events := s.events ++ (batchNotices settings d made).map .notice } := by
  simp only [signatures, run_bind_eq_ok_iff, run_compiled_eq_ok_iff, run_pure]
  constructor
  · rintro ⟨made, _, ⟨hmade, rfl⟩, _, _, ⟨⟩, ⟨⟩⟩
    exact ⟨hmade, rfl⟩
  · rintro ⟨hmade, rfl⟩
    exact ⟨made, s, ⟨hmade, rfl⟩, (), _, rfl, rfl⟩

/-! ## The commands -/

section

variable {source : String} {pages service : Option String} {choices : Choices} {format : Format}
  {settings : Settings} {d : Document} {made : List Signature} {read loaded : Workspace}

/-- The command that shows the definitions makes the signatures of the model first, then reads the
messages on deprecation, and prints at last. -/
theorem run_printSignatures (hformat : format ≠ .json)
    (hsettings : (Job.settings choices).run s.workspace = (.ok settings, read))
    (hmodel : (Job.modelWith source pages).run read = (.ok d, loaded))
    (hmade : Signature.ofModel settings.generator service settings.generator.workers d = .ok made)
    (hshows : s.shows .debug (loadedText source) = true) :
    (printSignatures format source none pages service choices).run s =
      (perform (Job.readMessages made) >>= fun _ =>
        print [Signature.listing settings.generator.dispatcher made] : Action Unit).run
        { s with
          workspace := loaded
          events := s.events ++ [.remark .debug (loadedText source)]
            ++ (batchNotices settings.generator d made).map .notice } := by
  have hfirst : (perform (Job.settings choices)).run s =
      (.ok settings, { s with workspace := read }) :=
    run_perform_eq_ok_iff.mpr ⟨read, hsettings, rfl⟩
  have hsecond : (model source pages).run { s with workspace := read } = (.ok d, { s with
      workspace := loaded
      events := s.events ++ [.remark .debug (loadedText source)] }) :=
    run_model_eq_ok_iff.mpr ⟨loaded, hmodel, hshows, rfl⟩
  refine (run_bind_of_ok hfirst).trans ?_
  refine (run_bind_of_ok hsecond).trans ?_
  refine (run_bind_of_ok (run_signatures_eq_ok_iff.mpr ⟨hmade, rfl⟩)).trans ?_
  simp only [if_neg hformat]
  rfl

/-- The module that is written holds the signatures of the model, whose messages can be read. -/
theorem holdsText_of_writeModule {settings : GeneratorSettings} {service : String}
    {directory path : Path} (hmade : Signature.ofModel settings (some service) settings.workers d =
      .ok made)
    (h : (writeModule settings service d directory).run s = (.ok path, later)) :
    Signature.AreReadable made ∧ later.workspace.HoldsText (modulePath directory service)
      (Module.render settings service none made) := by
  obtain ⟨found, _, hsignatures, h⟩ := run_bind_eq_ok_iff.mp h
  obtain ⟨hfound, rfl⟩ := run_signatures_eq_ok_iff.mp hsignatures
  obtain rfl : made = found := Except.ok.inj (hmade.symm.trans hfound)
  obtain ⟨_, _, hperform, h⟩ := run_bind_eq_ok_iff.mp h
  obtain ⟨workspace, hjob, rfl⟩ := run_perform_eq_ok_iff.mp hperform
  obtain ⟨_, _, hmessages, hjob⟩ := Job.run_bind_eq_ok_iff.mp hjob
  obtain ⟨hreadable, rfl⟩ := Job.areReadable_of_run_readMessages hmessages
  obtain ⟨_, _, hwrite, hpath⟩ := Job.run_bind_eq_ok_iff.mp hjob
  cases hpath
  obtain ⟨_, _, hsuccess, h⟩ := run_bind_eq_ok_iff.mp h
  obtain ⟨-, rfl⟩ := run_remark_eq_ok_iff.mp hsuccess
  obtain ⟨_, _, hsuggestion, h⟩ := run_bind_eq_ok_iff.mp h
  obtain ⟨-, rfl⟩ := run_remark_eq_ok_iff.mp hsuggestion
  cases h
  exact ⟨hreadable, Job.holdsText_of_writeText hwrite⟩

/-- The module that the command leaves behind holds the signatures of the model, whose messages can
be read. -/
theorem holdsText_of_generate {check : Bool}
    (hsettings : (Job.settings choices).run s.workspace = (.ok settings, read))
    (hmodel : (Job.modelWith source pages).run read = (.ok d, loaded))
    (hmade : Signature.ofModel settings.generator service settings.generator.workers d = .ok made)
    (h : (generate format source pages service choices check true).run s = (.ok (), later)) :
    Signature.AreReadable made ∧ ∃ directory prepared,
      (Job.outputDirectory settings).run loaded = (.ok directory, prepared) ∧
      later.workspace.HoldsText (modulePath directory (Signature.serviceOf d service))
        (Module.render settings.generator (Signature.serviceOf d service) none made) := by
  obtain ⟨settings', _, hfirst, h⟩ := run_bind_eq_ok_iff.mp h
  obtain ⟨_, hsettings', rfl⟩ := run_perform_eq_ok_iff.mp hfirst
  rw [hsettings] at hsettings'
  cases hsettings'
  obtain ⟨d', _, hsecond, h⟩ := run_bind_eq_ok_iff.mp h
  obtain ⟨_, hmodel', -, rfl⟩ := run_model_eq_ok_iff.mp hsecond
  rw [hmodel] at hmodel'
  cases hmodel'
  obtain ⟨directory, _, hthird, h⟩ := run_bind_eq_ok_iff.mp h
  obtain ⟨prepared, hdirectory, rfl⟩ := run_perform_eq_ok_iff.mp hthird
  obtain ⟨schema, compiled, hschema, h⟩ := run_bind_eq_ok_iff.mp h
  have hservice := (writesFrom_schema service _ d : WritesFrom [] _ _ _).2 schema compiled hschema
  obtain ⟨path, _, -, h⟩ := run_bind_eq_ok_iff.mp h
  obtain ⟨_, _, -, h⟩ := run_bind_eq_ok_iff.mp h
  rw [if_pos rfl, map_eq_pure_bind] at h
  obtain ⟨module?, _, hmodule, h⟩ := run_bind_eq_ok_iff.mp h
  obtain ⟨written, _, hwritten, hlast⟩ := run_bind_eq_ok_iff.mp hmodule
  cases hlast
  cases h
  have hnamed := Signature.ofModel_some_serviceOf hmade
  rw [← hservice] at hnamed
  obtain ⟨hreadable, hfile⟩ := holdsText_of_writeModule hnamed hwritten
  rw [hservice] at hfile
  exact ⟨hreadable, directory, prepared, hdirectory, hfile⟩

end

/-! ## Main result -/

/-- What one command prints is the end of what the other one writes.  For a model with operations,
from which signatures can be made, the definitions are those of the operations, in their order.  If
all messages on deprecation can be read, the first command prints them with an empty line between
any two, and else it breaks off and prints nothing.  Where the second command is told the same about
the generator and ends well, the messages can be read, and the module that it leaves behind is its
header and its completers, an empty line, and exactly what the first one prints. -/
theorem generate_writes_what_is_printed {source : String} {pages service : Option String}
    {choices : Choices} {s : Scene} {settings : Settings} {d : Document} {made : List Signature}
    {read loaded : Workspace}
    (hsettings : (Job.settings choices).run s.workspace = (.ok settings, read))
    (hmodel : (Job.modelWith source pages).run read = (.ok d, loaded))
    (hentries : Operation.entries d ≠ [])
    (hmade : Signature.ofModel settings.generator service settings.generator.workers d =
      .ok made) :
    (∃ batch, Signature.Batch.ofModel settings.generator service d = .ok batch ∧
      (Operation.entries d).map batch.signature = made.map .ok) ∧
    (∀ format, format ≠ .json → s.shows .debug (loadedText source) = true →
      (Signature.AreReadable made →
        ∃ later, (printSignatures format source none pages service choices).run s =
            (.ok (), later) ∧
          Display.output later.events = Display.output s.events
            ++ (Signature.listing settings.generator.dispatcher made ++ "\n")) ∧
      (¬ Signature.AreReadable made →
        ∃ ending later, (printSignatures format source none pages service choices).run s =
            (.error ending, later) ∧
          Display.output later.events = Display.output s.events)) ∧
    ∀ format check choices' settings' read' later,
      (Job.settings choices').run s.workspace = (.ok settings', read') →
      settings'.generator = settings.generator →
      (generate format source pages service choices' check true).run s = (.ok (), later) →
      Signature.AreReadable made ∧ ∃ directory prepared,
        (Job.outputDirectory settings').run loaded = (.ok directory, prepared) ∧
        later.workspace.HoldsText (modulePath directory (Signature.serviceOf d service))
          (Module.front settings.generator (Signature.serviceOf d service) none made ++ "\n"
            ++ (Signature.listing settings.generator.dispatcher made ++ "\n")) := by
  have hne : made ≠ [] := by
    rintro rfl
    exact hentries (List.length_eq_zero_iff.mp (Signature.length_of_ofModel hmade).symm)
  refine ⟨Signature.map_signature_of_ofModel hmade, fun format hformat hshows => ?_, ?_⟩
  · rw [run_printSignatures hformat hsettings hmodel hmade hshows]
    constructor
    · intro hreadable
      rw [run_bind_of_ok (run_perform_eq_ok_iff.mpr ⟨_, Job.run_readMessages hreadable, rfl⟩)]
      refine ⟨_, rfl, ?_⟩
      simp only [Display.output_append, Display.output_notices]
      simp [Display.output, Display.outputText]
    · intro hunreadable
      obtain ⟨count, hrun⟩ := Job.exists_run_readMessages (w := loaded) hunreadable
      rw [run_bind, run_perform, hrun]
      refine ⟨_, _, rfl, ?_⟩
      simp only [Display.output_append, Display.output_notices]
      simp [Display.output, Display.outputText]
  · intro format check choices' settings' read' later hsettings' hgenerator hgenerate
    obtain rfl := Job.workspace_of_settings hsettings hsettings'
    rw [← hgenerator] at hmade
    obtain ⟨hreadable, directory, prepared, hdirectory, hfile⟩ :=
      holdsText_of_generate hsettings' hmodel hmade hgenerate
    refine ⟨hreadable, directory, prepared, hdirectory, ?_⟩
    rw [hgenerator, Module.render_eq_front_append hne, String.append_assoc] at hfile
    exact hfile

/-! ## Ending well -/

section

variable {u w : Workspace}

/-- A schema without problems is saved where its file can be written. -/
theorem comesTo_saveSchema {found : Schema} {path directory : Path} {made : FileTree}
    {parent : Place} (hrecord : found.toRecord = .ok found.encode)
    (hvalid : Schema.isValid found.encode = true)
    (hpath : schemaPath directory found.encode.fields = path)
    (h : w.files.IsAdmitted w.directory w.token path made parent) (check : Bool) :
    ComesTo (saveSchema found directory check) w path
      { w with
        files := made.put (path.name :: parent) (.file (schemaText found.encode).toUTF8) } := by
  refine (comesTo_compiled hrecord).bind ?_
  obtain ⟨fields, hfields⟩ : ∃ fields, found.encode = .object fields := ⟨_, rfl⟩
  rw [hfields] at hvalid hpath ⊢
  have hchecked : ¬ (check && !Schema.isValid (.object fields)) = true := by simp [hvalid]
  rw [if_neg hchecked]
  refine comesTo_perform ?_
  rw [Job.saveSchema, if_neg hchecked]
  subst hpath
  exact Job.run_bind_eq_ok_iff.mpr ⟨(), _, Job.run_writeText_eq_of_isAdmitted h _, rfl⟩

/-- A module with messages that can be read is written where its file can be. -/
theorem comesTo_writeModule {settings : GeneratorSettings} {service : String} {d : Document}
    {found : List Signature} {directory : Path} {made : FileTree} {parent : Place}
    (hfound : Signature.ofModel settings (some service) settings.workers d = .ok found)
    (hreadable : Signature.AreReadable found)
    (h : w.files.IsAdmitted w.directory w.token (modulePath directory service) made parent) :
    ComesTo (writeModule settings service d directory) w (modulePath directory service)
      { w with
        files := made.put ((modulePath directory service).name :: parent)
          (.file (Module.render settings service none found).toUTF8) } := by
  have hsignatures : ComesTo (signatures settings (some service) d) w found w :=
    (comesTo_compiled hfound).bind ((comesTo_sayAll _).bind (comesTo_pure found))
  have hwrite : ComesTo (perform (Job.writeModule settings service found directory)) w
      (modulePath directory service) _ :=
    comesTo_perform (Job.run_bind_eq_ok_iff.mpr ⟨(), _, Job.run_readMessages hreadable,
      Job.run_bind_eq_ok_iff.mpr ⟨(), _, Job.run_writeText_eq_of_isAdmitted h _, rfl⟩⟩)
  refine hsignatures.bind (hwrite.bind ?_)
  exact (comesTo_remark _ _).bind ((comesTo_remark _ _).bind (comesTo_pure _))

/-- The command ends well when its schema is free of problems, the messages on deprecation can be
read, and both files can be written. -/
theorem comesTo_generate {format : Format} {source : String} {pages service : Option String}
    {choices : Choices} {settings : Settings} {d : Document} {found : Schema}
    {made : List Signature} {read loaded prepared : Workspace} {directory path : Path}
    {between last : FileTree} {parent place : Place}
    (hsettings : (Job.settings choices).run u = (.ok settings, read))
    (hmodel : (Job.modelWith source pages).run read = (.ok d, loaded))
    (hdirectory : (Job.outputDirectory settings).run loaded = (.ok directory, prepared))
    (hfound : Schema.ofModel prepared.now service settings.generator.maxDepth d = .ok found)
    (hrecord : found.toRecord = .ok found.encode)
    (hvalid : Schema.isValid found.encode = true)
    (hpath : schemaPath directory found.encode.fields = path)
    (hmade : Signature.ofModel settings.generator service settings.generator.workers d = .ok made)
    (hreadable : Signature.AreReadable made)
    (hschema : prepared.files.IsAdmitted prepared.directory prepared.token path between parent)
    (hmodule :
      (between.put (path.name :: parent) (.file (schemaText found.encode).toUTF8)).IsAdmitted
        prepared.directory prepared.token (modulePath directory found.service) last place)
    (check : Bool) :
    ComesTo (generate format source pages service choices check true) u ()
      { prepared with
        files := last.put ((modulePath directory found.service).name :: place)
          (.file (Module.render settings.generator found.service none made).toUTF8) } := by
  have hnamed := Signature.ofModel_some_serviceOf hmade
  rw [← (Schema.ofModel_eq_ok hfound).1] at hnamed
  have hmodel' : ComesTo (model source pages) read d loaded :=
    (comesTo_perform hmodel).bind ((comesTo_remark _ _).bind (comesTo_pure d))
  have hnow : ComesTo (perform (Job.ask fun w => .ok w.now)) prepared prepared.now prepared :=
    comesTo_perform (Job.run_ask _ _)
  have hcompiled : ComesTo (schema service settings.generator.maxDepth d) prepared found prepared :=
    hnow.bind ((comesTo_compiled hfound).bind ((comesTo_sayAll _).bind (comesTo_pure found)))
  refine (comesTo_perform hsettings).bind ?_
  refine hmodel'.bind ?_
  refine (comesTo_perform hdirectory).bind ?_
  refine hcompiled.bind ?_
  refine (comesTo_saveSchema hrecord hvalid hpath hschema check).bind ?_
  refine (comesTo_remark _ _).bind ?_
  rw [if_pos rfl, map_eq_pure_bind]
  have hwritten := comesTo_writeModule (w := { prepared with
    files := between.put (path.name :: parent) (.file (schemaText found.encode).toUTF8) })
    hnamed hreadable hmodule
  have hsome : ComesTo (writeModule settings.generator found.service d directory >>= fun path =>
      pure (some path)) _ _ _ := hwritten.bind (comesTo_pure _)
  exact hsome.bind (comesTo_sayAll _)

end

end Action

/-! ## Two definitions -/

/-- A model with two operations. -/
def itemsModel : Document :=
  .ofPairs [("operations", .ofPairs [("ListItems", .ofPairs []), ("PutItem", .ofPairs [])])]

theorem isMadeOf_itemsModel : itemsModel.IsMadeOf Json.IsWritable := by
  have hempty : (Document.ofPairs []).IsMadeOf Json.IsWritable := .ofPairs List.nodup_nil nofun
  have hoperations : (Document.ofPairs
      [("ListItems", .ofPairs []), ("PutItem", .ofPairs [])]).IsMadeOf Json.IsWritable := by
    refine .ofPairs (by decide) ?_
    simp only [List.forall_mem_cons, List.not_mem_nil, false_implies, implies_true, and_true]
    exact ⟨hempty, hempty⟩
  exact .ofPairs (List.nodup_singleton _) (List.forall_mem_singleton.mpr hoperations)

/-- It as a text. -/
def itemsText : String := Json.compact.write itemsModel ++ "\n"

theorem run_modelWith_itemsText :
    (Job.modelWith inputSign none).run (pipedWorkspace itemsText).withFreshFiles =
      (.ok itemsModel, (pipedWorkspace "").withFreshFiles) :=
  run_modelWith_pipedWorkspace (modelOfInput_write _ isMadeOf_itemsModel)

/-- A scene with this workspace. -/
def itemsScene : Scene := { workspace := pipedWorkspace itemsText }

/-- What is chosen for the command that writes. -/
def itemsChoices : Choices := { outputDir := some "/c" }

theorem run_settings_itemsChoices (input : String) :
    (Job.settings itemsChoices).run (pipedWorkspace input) =
      (.ok { outputDir := some "/c" }, (pipedWorkspace input).withFreshFiles) :=
  run_settings_pipedWorkspace rfl

theorem run_outputDirectory_pipedWorkspace (input : String) :
    (Job.outputDirectory { outputDir := some "/c" }).run (pipedWorkspace input).withFreshFiles =
      (.ok ⟨"/", ["c"]⟩, (pipedWorkspace input).withFreshFiles) := by
  have hsplit : "/c".splitOn "/" = ["", "c"] := (Text.splitOn_ofList "/c" '/').trans (by decide)
  have hpath : Path.ofText "/c" = ⟨"/", ["c"]⟩ := by
    rw [Path.ofText, hsplit]
    decide
  have hexpanded : Job.outputDirectory { outputDir := some "/c" } = Job.expanded "/c" := rfl
  rw [hexpanded, Job.expanded, hpath]
  rfl

/-- The files for the service in the directory. -/
theorem child_generatedEndings {ending : String} (h : ending ∈ generatedEndings) :
    (⟨"/", ["c"]⟩ : Path).child ("service" ++ ending) = ⟨"/", ["c", "service" ++ ending]⟩ := by
  obtain ⟨hslash, hlong⟩ := generatedEndings_spec ending h
  have hname : '/' ∉ "service".toList := by decide
  obtain ⟨hbare, hlast⟩ := Path.isBare_of_not_mem hname
  rw [Path.LeadsInto.child_eq (.inl hbare) hslash (by omega), hlast]
  rfl

/-- The files can be written there, one after the other. -/
theorem isAdmitted_freshFiles : freshFiles.IsAdmitted [] "new" ⟨"/", ["c", "service.json"]⟩
    freshFiles ["c"] :=
  ⟨rfl, rfl, by decide, by decide, by decide, rfl, nofun⟩

theorem isAdmitted_freshFiles_put (content : ByteArray) :
    (freshFiles.put ["service.json", "c"] (.file content)).IsAdmitted [] "new"
      ⟨"/", ["c", "service.nu"]⟩ (freshFiles.put ["service.json", "c"] (.file content)) ["c"] :=
  ⟨rfl, rfl, by decide, by decide, by decide, rfl, nofun⟩

namespace Action

/-- The command that writes the module of the model ends well. -/
theorem exists_run_generate_itemsText : ∃ later,
    (generate .plain inputSign none none itemsChoices true true).run itemsScene =
      (.ok (), later) := by
  obtain ⟨found, hfound, hrecord⟩ : ∃ found,
      Schema.ofModel default none (some 16) itemsModel = .ok found ∧
        found.toRecord = .ok found.encode := ⟨_, rfl, rfl⟩
  have hservice : found.service = "service" := (Schema.ofModel_eq_ok hfound).1
  have hclock : (default : Instant).OnClock := by constructor <;> decide
  have hvalid : Schema.isValid found.encode = true :=
    (Schema.isValid_encode_iff hclock hfound).mpr (by decide)
  obtain ⟨made, hmade, hreadable⟩ : ∃ made, Signature.ofModel {} none 4 itemsModel = .ok made ∧
      Signature.AreReadable made := ⟨_, rfl, by decide⟩
  have hpath : schemaPath ⟨"/", ["c"]⟩ found.encode.fields = ⟨"/", ["c", "service.json"]⟩ := by
    rw [schemaPath, schemaService_encode (by rw [hservice]; decide), hservice]
    exact child_generatedEndings (by decide)
  have hmodule := isAdmitted_freshFiles_put (schemaText found.encode).toUTF8
  have hchild : modulePath ⟨"/", ["c"]⟩ found.service = ⟨"/", ["c", "service.nu"]⟩ := by
    rw [hservice]
    exact child_generatedEndings (by decide)
  rw [← hchild] at hmodule
  obtain ⟨later, hrun, -⟩ := comesTo_generate (run_settings_itemsChoices itemsText)
    run_modelWith_itemsText (run_outputDirectory_pipedWorkspace "") hfound hrecord hvalid hpath
    hmade hreadable isAdmitted_freshFiles hmodule true itemsScene rfl fun _ _ => rfl
  exact ⟨later, hrun⟩

/-- The definitions of the two commands. -/
def itemsListing : String :=
  "export def \"aws service list-items\" [\n]: nothing -> nothing \x7b\n"
    ++ "    aws-dispatch service ListItems \x7b\x7d\n\x7d\n\n"
    ++ "export def \"aws service put-item\" [\n]: nothing -> nothing \x7b\n"
    ++ "    aws-dispatch service PutItem \x7b\x7d\n\x7d"

/-- They are printed as they stand in the module, behind its header. -/
theorem generate_writes_what_is_printed_itemsModel :
    (∃ later, (printSignatures .plain inputSign none none none {}).run itemsScene =
        (.ok (), later) ∧
      Display.output later.events = itemsListing ++ "\n") ∧
    ∃ later, (generate .plain inputSign none none itemsChoices true true).run
        itemsScene = (.ok (), later) ∧
      later.workspace.HoldsText ⟨"/", ["c", "service.nu"]⟩
        (Module.header "aws service commands" "service" ++ "\n" ++ (itemsListing ++ "\n")) := by
  obtain ⟨made, hmade, hreadable, hlisting, hfront⟩ : ∃ made,
      Signature.ofModel {} none 4 itemsModel = .ok made ∧ Signature.AreReadable made ∧
        Signature.listing "aws-dispatch" made = itemsListing ∧
        Module.front {} "service" none made = Module.header "aws service commands" "service" :=
    ⟨_, rfl, by decide, by decide +kernel, by decide +kernel⟩
  obtain ⟨written, hwritten⟩ := exists_run_generate_itemsText
  obtain ⟨-, hprint, hwrite⟩ := generate_writes_what_is_printed
    (s := itemsScene) (run_settings_default itemsText) run_modelWith_itemsText (by decide) hmade
  obtain ⟨printed, hprinted, houtput⟩ := (hprint .plain (by decide) rfl).1 hreadable
  obtain ⟨-, directory, _, hdirectory, hfile⟩ := hwrite .plain true itemsChoices
    { outputDir := some "/c" } _ written (run_settings_itemsChoices itemsText) rfl hwritten
  rw [run_outputDirectory_pipedWorkspace] at hdirectory
  cases hdirectory
  have hservice : Signature.serviceOf itemsModel none = "service" := rfl
  rw [hservice, hfront, hlisting, modulePath, child_generatedEndings (by decide)] at hfile
  refine ⟨⟨printed, hprinted, ?_⟩, written, hwritten, hfile⟩
  rw [houtput, hlisting]
  rfl

end Action

end ServiceShell
