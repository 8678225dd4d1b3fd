import ServiceShell.Command.Compile
import ServiceShell.Proofs.Command.Keeps
import ServiceShell.Proofs.Files.Path
import ServiceShell.Proofs.Schema.Compiled
import ServiceShell.Proofs.Text.Hyphenated
import ServiceShell.Proofs.Workspace.Writes

/-!
# Where generated files go

The command that compiles a model writes two files at the most, named for the service, and makes the
directories around them.  A name that is derived from the model has no slash, so the files are in
the directory that was asked for.  A name that the user gives is taken as it is written, and the
files are in the directory for all names but those that lead away from it.

Main results:

- Definition `Job.destination`: the directory and the name of the service.
- Definition `Action.WritesFrom`: what an action writes at the most, and what holds where it ends
  with a value.
- Theorem `Signature.not_mem_serviceOf`: a derived name has no slash.
- Theorem `Action.generate_writes`: which files the command writes, and when they are in the
  directory.
-/

namespace ServiceShell

/-- The directory for the files that are generated from a model, and the name of its service. -/
def Job.destination (source : String) (pages service : Option String) (choices : Choices) :
    Job (Path × String) := do
  let settings ← settings choices
  let model ← modelWith source pages
  let directory ← outputDirectory settings
  return (directory, Signature.serviceOf model service)

/-- The endings of the files that are generated: a schema and a module. -/
def generatedEndings : List String := [".json", ".nu"]

theorem generatedEndings_spec : ∀ ending ∈ generatedEndings,
    '/' ∉ ending.toList ∧ 2 < ending.toList.length := by decide

/-- The paths of the files that are generated for a service in a directory. -/
def generatedPaths (directory : Path) (name : String) : List Path :=
  generatedEndings.map fun ending => directory.child (name ++ ending)

/-- The files that are generated are there: the schema, and the module if it is wanted. -/
def Workspace.HoldsGenerated (w : Workspace) (withModule : Bool) (directory : Path)
    (name : String) : Prop :=
  w.HoldsFile (directory.child (name ++ ".json")) ∧
    (withModule = true → w.HoldsFile (directory.child (name ++ ".nu")))

theorem Workspace.WritesOnly.holdsGenerated {paths : List Path} {v w : Workspace}
    {withModule : Bool} {directory : Path} {name : String} (h : v.WritesOnly paths w)
    (hfiles : v.HoldsGenerated withModule directory name) :
    w.HoldsGenerated withModule directory name :=
  ⟨h.holdsFile hfiles.1, fun hwanted => h.holdsFile (hfiles.2 hwanted)⟩

/-! ## Names of services -/

/-- A name that consists of words joined by hyphens has no slash. -/
theorem Naming.IsHyphenated.not_mem {name : String} (h : IsHyphenated name) :
    '/' ∉ name.toList := by
  obtain ⟨words, hwords, hname⟩ := h
  intro hslash
  rw [hname] at hslash
  rcases Text.mem_joinWith hslash with hhyphen | ⟨w, hw, hslash⟩
  · cases hhyphen
  · exact absurd ((hwords w hw).2 '/' hslash) (by decide)

/-- The name that is derived from a model has no slash. -/
theorem Signature.not_mem_serviceOf (model : Document) {service : Option String}
    (h : service.getD "" = "") : '/' ∉ (serviceOf model service).toList := by
  have hderived : serviceOf model service =
      (Metadata.ofModel model).serviceName Metadata.defaultServiceName := by
    unfold serviceOf
    split <;> simp_all
  rw [hderived, Metadata.serviceName]
  cases hfirst : Metadata.firstName? _ with
  | none => decide
  | some name =>
      obtain ⟨candidate, -, rfl⟩ := List.mem_map.mp (List.mem_of_find?_eq_some hfirst)
      exact (Naming.isHyphenated_kebab candidate).not_mem

/-- The schema of a service is saved under the name of the service. -/
theorem schemaService_encode {schema : Schema} (h : schema.service ≠ "") :
    schemaService schema.encode.fields = schema.service := by
  have hservice : Fields.get? "service" schema.encode.fields = some (.text schema.service) := rfl
  rw [schemaService, hservice]
  exact if_neg h

/-- The name of a destination is the one that is given, or is derived from a model. -/
theorem Job.name_of_destination {source : String} {pages service : Option String}
    {choices : Choices} {directory : Path} {name : String} {w later : Workspace}
    (h : (destination source pages service choices).run w = (.ok (directory, name), later)) :
    ∃ model, name = Signature.serviceOf model service := by
  obtain ⟨_, _, -, h⟩ := run_bind_eq_ok_iff.mp h
  obtain ⟨model, _, -, h⟩ := run_bind_eq_ok_iff.mp h
  obtain ⟨_, _, -, h⟩ := run_bind_eq_ok_iff.mp h
  cases h
  exact ⟨model, rfl⟩

/-! ## Saving -/

namespace Job

variable {paths : List Path} {directory path : Path} {w later : Workspace}

/-- A record is saved at the path for it, and nowhere else. -/
theorem writesOnly_saveSchema {d : Document} (hpath : schemaPath directory d.fields ∈ paths)
    (check : Bool) : (saveSchema d directory check).WritesOnly paths := by
  unfold saveSchema
  split
  · exact writesOnly_ask _
  · split
    · exact (writesOnly_writeText hpath _).bind fun _ => writesOnly_pure _
    · exact writesOnly_ask _

/-- A record that was saved is in a file at the path that is told. -/
theorem holdsFile_of_saveSchema {d : Document} {check : Bool}
    (h : (saveSchema d directory check).run w = (.ok path, later)) :
    path = schemaPath directory d.fields ∧ later.HoldsFile (schemaPath directory d.fields) := by
  unfold saveSchema at h
  split at h
  · cases h
  · split at h
    · obtain ⟨_, middle, hwrite, hrest⟩ := run_bind_eq_ok_iff.mp h
      cases hrest
      exact ⟨rfl, holdsFile_of_writeText hwrite⟩
    · cases h

/-- A module is written at the path for it, and nowhere else. -/
theorem writesOnly_writeModule {service : String} (hpath : modulePath directory service ∈ paths)
    (settings : GeneratorSettings) (signatures : List Signature) :
    (writeModule settings service signatures directory).WritesOnly paths :=
  (writesOnly_ask _).bind fun _ => (writesOnly_writeText hpath _).bind fun _ => writesOnly_pure _

/-- A module that was written is in a file at the path that is told. -/
theorem holdsFile_of_writeModule {settings : GeneratorSettings} {service : String}
    {signatures : List Signature}
    (h : (writeModule settings service signatures directory).run w = (.ok path, later)) :
    path = modulePath directory service ∧ later.HoldsFile (modulePath directory service) := by
  obtain ⟨_, _, -, h⟩ := run_bind_eq_ok_iff.mp h
  obtain ⟨_, middle, hwrite, hrest⟩ := run_bind_eq_ok_iff.mp h
  cases hrest
  exact ⟨rfl, holdsFile_of_writeText hwrite⟩

end Job

/-! ## Actions that write certain files -/

namespace Action

variable {α β : Type} {paths : List Path} {s : Scene}

/-- From a scene, an action writes files at certain paths only; where it ends with a value, the
value and the scene are as is asked for. -/
def WritesFrom (paths : List Path) (s : Scene) (action : Action α) (Q : α → Scene → Prop) : Prop :=
  s.workspace.WritesOnly paths (action.run s).2.workspace ∧
    ∀ a later, action.run s = (.ok a, later) → Q a later

theorem writesFrom_pure (a : α) : WritesFrom paths s (pure a) fun b later => b = a ∧ later = s := by
  refine ⟨.refl paths _, ?_⟩
  rintro b later ⟨⟩
  exact ⟨rfl, rfl⟩

theorem writesFrom_fail (trouble : Trouble) (Q : α → Scene → Prop) :
    WritesFrom paths s (fail trouble) Q := by
  refine ⟨.refl paths _, ?_⟩
  rintro b later ⟨⟩

/-- What is said writes nothing. -/
theorem writesFrom_sayAll (events : List Event) :
    WritesFrom paths s (sayAll events) fun _ later => later.workspace = s.workspace := by
  refine ⟨.refl paths _, ?_⟩
  rintro b later ⟨⟩
  rfl

theorem writesFrom_remark (kind : RemarkKind) (text : String) :
    WritesFrom paths s (remark kind text) fun _ later => later.workspace = s.workspace := by
  by_cases hshows : s.shows kind text = true
  · rw [WritesFrom, run_remark hshows]
    refine ⟨.refl paths _, ?_⟩
    rintro b later ⟨⟩
    rfl
  · rw [WritesFrom, run_remark_of_not_shows hshows]
    refine ⟨.refl paths _, ?_⟩
    rintro b later ⟨⟩

theorem writesFrom_compiled (result : Except CompileError α) :
    WritesFrom paths s (compiled result) fun a later => result = .ok a ∧ later = s := by
  cases result with
  | error e => exact writesFrom_fail _ _
  | ok a =>
      refine ⟨.refl paths _, ?_⟩
      rintro b later ⟨⟩
      exact ⟨rfl, rfl⟩

theorem writesFrom_perform {job : Job α} (h : job.WritesOnly paths) :
    WritesFrom paths s (perform job) fun a later =>
      job.run s.workspace = (.ok a, later.workspace) := by
  have hjob := h s.workspace
  rw [WritesFrom, run_perform]
  rcases hrun : job.run s.workspace with ⟨_ | a, workspace⟩ <;> rw [hrun] at hjob
  · refine ⟨hjob, ?_⟩
    rintro b later ⟨⟩
  · refine ⟨hjob, ?_⟩
    rintro b later ⟨⟩
    rfl

section

variable {action : Action α} {Q : α → Scene → Prop} {next : α → Action β} {R : β → Scene → Prop}

theorem WritesFrom.mono {Q' : α → Scene → Prop} (h : WritesFrom paths s action Q)
    (hQ : ∀ a later, s.workspace.WritesOnly paths later.workspace → Q a later → Q' a later) :
    WritesFrom paths s action Q' := by
  refine ⟨h.1, fun a later hrun => hQ a later ?_ (h.2 a later hrun)⟩
  have hwrites := h.1
  rwa [hrun] at hwrites

/-- One action after the other. -/
theorem WritesFrom.bind (h : WritesFrom paths s action Q)
    (hnext : ∀ a later, s.workspace.WritesOnly paths later.workspace → Q a later →
      WritesFrom paths later (next a) R) : WritesFrom paths s (action >>= next) R := by
  obtain ⟨hwrites, hvalue⟩ := h
  rw [WritesFrom, run_bind]
  rcases hrun : action.run s with ⟨ending | a, middle⟩ <;> rw [hrun] at hwrites
  · refine ⟨hwrites, ?_⟩
    rintro b later ⟨⟩
  · obtain ⟨hafter, hlast⟩ := hnext a middle hwrites (hvalue a middle hrun)
    exact ⟨hwrites.trans hafter, hlast⟩

end

/-! ## Steps of the command -/

/-- Telling problems writes nothing. -/
theorem writesFrom_tellProblems (problems : List Schema.Problem) :
    WritesFrom paths s (tellProblems problems) fun _ later => later.workspace = s.workspace := by
  unfold tellProblems
  induction problems generalizing s with
  | nil => exact (writesFrom_pure ()).mono fun _ _ _ h => congrArg Scene.workspace h.2
  | cons p problems ih =>
      change WritesFrom paths s (remark .error p.message >>= fun _ =>
        problems.forM fun p => remark .error p.message) _
      refine (writesFrom_remark _ _).bind fun _ middle _ hmiddle => ?_
      exact ih.mono fun _ _ _ h => h.trans hmiddle

theorem writesFrom_model (source : String) (pages : Option String) :
    WritesFrom paths s (model source pages) fun d later =>
      (Job.modelWith source pages).run s.workspace = (.ok d, later.workspace) := by
  refine (writesFrom_perform (Job.writesOnly_modelWith source pages)).bind
    fun d middle _ hmodel => ?_
  refine (writesFrom_remark _ _).bind fun _ later _ hlater => ?_
  exact (writesFrom_pure d).mono fun _ _ _ ⟨hd, hsame⟩ => by rw [hd, hsame, hlater, hmodel]

theorem writesFrom_schema (service : Option String) (limit : Option Int) (d : Document) :
    WritesFrom paths s (schema service limit d) fun schema _ =>
      schema.service = Signature.serviceOf d service := by
  refine (writesFrom_perform (Job.writesOnly_ask _)).bind fun now _ _ _ => ?_
  refine (writesFrom_compiled _).bind fun schema _ _ hschema => ?_
  refine (writesFrom_sayAll _).bind fun _ _ _ _ => ?_
  refine (writesFrom_pure schema).mono fun _ _ _ hsame => ?_
  rw [hsame.1]
  exact (Schema.ofModel_eq_ok hschema.1).1

/-- The schema is saved at the path for it, and nowhere else. -/
theorem writesFrom_saveSchema {schema : Schema} (hservice : schema.service ≠ "") {directory : Path}
    (hpath : directory.child (schema.service ++ ".json") ∈ paths) (check : Bool) :
    WritesFrom paths s (saveSchema schema directory check) fun _ later =>
      later.workspace.HoldsFile (directory.child (schema.service ++ ".json")) := by
  have hsame : schemaPath directory schema.encode.fields =
      directory.child (schema.service ++ ".json") := by
    rw [schemaPath, schemaService_encode hservice]
  rw [← hsame] at hpath ⊢
  refine (writesFrom_compiled schema.toRecord).bind fun d _ _ hrecord => ?_
  obtain ⟨-, rfl⟩ := Schema.toRecord_eq_ok_iff.mp hrecord.1
  split
  · exact (writesFrom_tellProblems _).bind fun _ _ _ _ => writesFrom_fail _ _
  · refine (writesFrom_perform (Job.writesOnly_saveSchema hpath check)).mono
      fun _ later _ hrun => ?_
    exact (Job.holdsFile_of_saveSchema hrun).2

theorem writesFrom_signatures (settings : GeneratorSettings) (service : Option String)
    (d : Document) : WritesFrom paths s (signatures settings service d) fun _ _ => True :=
  (writesFrom_compiled _).bind fun signatures _ _ _ => (writesFrom_sayAll _).bind fun _ _ _ _ =>
    (writesFrom_pure signatures).mono fun _ _ _ _ => trivial

/-- The module is written at the path for it, and nowhere else. -/
theorem writesFrom_writeModule (settings : GeneratorSettings) {service : String} (d : Document)
    {directory : Path} (hpath : modulePath directory service ∈ paths) :
    WritesFrom paths s (writeModule settings service d directory) fun _ later =>
      later.workspace.HoldsFile (modulePath directory service) := by
  refine (writesFrom_signatures settings (some service) d).bind fun signatures _ _ _ => ?_
  refine (writesFrom_perform (Job.writesOnly_writeModule hpath settings signatures)).bind
    fun _ _ _ hrun => ?_
  have hfile := (Job.holdsFile_of_writeModule hrun).2
  refine (writesFrom_remark _ _).bind fun _ _ hfirst _ => ?_
  refine (writesFrom_remark _ _).bind fun _ _ hsecond _ => ?_
  exact (writesFrom_pure _).mono fun _ _ hlast _ =>
    hlast.holdsFile (hsecond.holdsFile (hfirst.holdsFile hfile))

/-! ## The command -/

/-- The command writes at the paths for its destination, and nowhere else; when it ends well, the
files are there. -/
theorem writesFrom_generate (format : Format) (source : String) (pages service : Option String)
    (choices : Choices) (check withModule : Bool)
    (hpaths : ∀ directory name,
      ((Job.destination source pages service choices).run s.workspace).1 =
        .ok (directory, name) →
      directory.child (name ++ ".json") ∈ paths ∧ directory.child (name ++ ".nu") ∈ paths) :
    WritesFrom paths s (generate format source pages service choices check withModule)
      fun _ later => ∃ directory name,
        ((Job.destination source pages service choices).run s.workspace).1 =
          .ok (directory, name) ∧
        later.workspace.HoldsGenerated withModule directory name := by
  refine (writesFrom_perform (Job.writesOnly_settings choices)).bind
    fun settings _ _ hsettings => ?_
  refine (writesFrom_model source pages).bind fun d _ _ hmodel => ?_
  refine (writesFrom_perform (Job.writesOnly_outputDirectory settings)).bind
    fun directory prepared _ hdirectory => ?_
  have hdestination : ((Job.destination source pages service choices).run s.workspace).1 =
      .ok (directory, Signature.serviceOf d service) := by
    simp only [Job.destination, Job.run_bind, hsettings, hmodel, hdirectory, Job.run_pure]
  obtain ⟨hschemaPath, hmodulePath⟩ := hpaths _ _ hdestination
  refine (writesFrom_schema service _ d).bind fun schema _ _ hname => ?_
  have hservice : schema.service ≠ "" := hname ▸ Schema.serviceOf_ne_empty d service
  rw [← hname] at hdestination hschemaPath hmodulePath
  refine (writesFrom_saveSchema hservice hschemaPath check).bind fun path _ _ hschema => ?_
  refine (writesFrom_remark _ _).bind fun _ _ htold _ => ?_
  have hprint : ∀ (scene : Scene) (module? : Option Path),
      scene.workspace.HoldsGenerated withModule directory schema.service →
      WritesFrom paths scene (print ((writtenRecord schema.service path module?).linesIn format))
        fun _ later => ∃ directory name,
          ((Job.destination source pages service choices).run s.workspace).1 =
            .ok (directory, name) ∧
          later.workspace.HoldsGenerated withModule directory name :=
    fun scene module? hfiles => (writesFrom_sayAll _).mono fun _ _ hprinted _ =>
      ⟨directory, schema.service, hdestination, hprinted.holdsGenerated hfiles⟩
  simp only
  split
  · rw [map_eq_pure_bind]
    refine ((writesFrom_writeModule settings.generator d hmodulePath).bind
      fun path _ _ hfile => (writesFrom_pure (some path)).mono fun _ _ hlast _ =>
        hlast.holdsFile hfile).bind fun _ _ hwritten hmodule => ?_
    exact hprint _ _ ⟨hwritten.holdsFile (htold.holdsFile hschema), fun _ => hmodule⟩
  · rename_i hnone
    refine (writesFrom_pure none).bind fun _ _ hsame _ => ?_
    exact hprint _ _ ⟨hsame.holdsFile (htold.holdsFile hschema),
      fun hwanted => absurd hwanted hnone⟩

/-- What the command writes, and where this is: nothing but the files that are named for the service
changes, and directories may be new; both files are in the directory exactly when the name leads
into it, and are then called as the last part of the name with an ending. -/
structure Generates (before after : Workspace) (directory : Path) (name : String) : Prop where
  /-- Only two files are written. -/
  writes : before.WritesOnly (generatedPaths directory name) after
  /-- They are in the directory exactly when the name leads into it. -/
  inside_iff : ∀ path ∈ generatedPaths directory name,
    path.parent = directory ↔ directory.LeadsInto name
  /-- Then nothing changes but two entries of the directory. -/
  entries : directory.LeadsInto name → ∀ place, before.files.GrowsAt after.files place ∨
    ∃ parent, ∃ ending ∈ generatedEndings,
      after.files.locate after.directory directory = .ok parent ∧
        place = (Path.lastPart name ++ ending) :: parent
  /-- A name without a slash leads into every directory, and names the entries. -/
  plain : '/' ∉ name.toList → directory.LeadsInto name ∧ Path.lastPart name = name

theorem generates_of_writesOnly {before after : Workspace} {directory : Path} {name : String}
    (h : before.WritesOnly (generatedPaths directory name) after) :
    Generates before after directory name := by
  refine ⟨h, ?_, ?_, ?_⟩
  · intro path hpath
    obtain ⟨ending, hending, rfl⟩ := List.mem_map.mp hpath
    obtain ⟨hslash, hlong⟩ := generatedEndings_spec ending hending
    exact Path.parent_child_eq_iff hslash (by omega) directory
  · intro hleads place
    refine (h.places place).imp_right ?_
    rintro ⟨path, hpath, hlocate, -⟩
    obtain ⟨ending, hending, rfl⟩ := List.mem_map.mp hpath
    obtain ⟨hslash, hlong⟩ := generatedEndings_spec ending hending
    have hup : Path.lastPart name ++ ending ≠ ".." := by
      intro heq
      have hlength := congrArg (fun text => text.toList.length) heq
      simp only [String.toList_append, List.length_append] at hlength
      have htwo : "..".toList.length = 2 := rfl
      omega
    rw [hleads.child_eq hslash (by omega)] at hlocate
    obtain ⟨parent, hparent, hplace⟩ := FileTree.eq_cons_of_locate hlocate hup
    exact ⟨parent, ending, hending, hparent, hplace⟩
  · intro hslash
    obtain ⟨hbare, hlast⟩ := Path.isBare_of_not_mem hslash
    exact ⟨.inl hbare, hlast⟩

/-- Which files the command writes.  Where there is trouble with the settings, the model or the
directory, it writes none.  Else it writes the files that are named for the service and no others,
both of them if it ends well, and they are in the directory exactly when the name of the service
leads into it; so they always are when no name is given. -/
theorem generate_writes (format : Format) (source : String) (pages service : Option String)
    (choices : Choices) (check withModule : Bool) (s : Scene) :
    ∃ result later,
      (generate format source pages service choices check withModule).run s = (result, later) ∧
      ((result ≠ .ok () ∧ s.workspace.WritesOnly [] later.workspace) ∨
        ∃ directory name,
          ((Job.destination source pages service choices).run s.workspace).1 =
            .ok (directory, name) ∧
          Generates s.workspace later.workspace directory name ∧
          (result = .ok () → later.workspace.HoldsGenerated withModule directory name) ∧
          (service.getD "" = "" → '/' ∉ name.toList)) := by
  refine ⟨_, _, rfl, ?_⟩
  cases hdestination : ((Job.destination source pages service choices).run s.workspace).1 with
  | error trouble =>
      have hpaths (d : Path) (n : String)
          (h : ((Job.destination source pages service choices).run s.workspace).1 = .ok (d, n)) :
          d.child (n ++ ".json") ∈ ([] : List Path) ∧ d.child (n ++ ".nu") ∈ ([] : List Path) := by
        rw [hdestination] at h
        cases h
      obtain ⟨hwrites, hvalue⟩ :=
        writesFrom_generate format source pages service choices check withModule hpaths
      refine .inl ⟨fun hok => ?_, hwrites⟩
      obtain ⟨_, _, hfound, -⟩ := hvalue () _ (Prod.ext hok rfl)
      rw [hdestination] at hfound
      cases hfound
  | ok destination =>
      obtain ⟨directory, name⟩ := destination
      have hpaths (d : Path) (n : String)
          (h : ((Job.destination source pages service choices).run s.workspace).1 = .ok (d, n)) :
          d.child (n ++ ".json") ∈ generatedPaths directory name ∧
            d.child (n ++ ".nu") ∈ generatedPaths directory name := by
        rw [hdestination] at h
        cases h
        exact ⟨List.mem_cons_self, List.mem_cons_of_mem _ List.mem_cons_self⟩
      obtain ⟨hwrites, hvalue⟩ :=
        writesFrom_generate format source pages service choices check withModule hpaths
      refine .inr ⟨directory, name, rfl, generates_of_writesOnly hwrites, fun hok => ?_, ?_⟩
      · obtain ⟨_, _, hfound, hfiles⟩ := hvalue () _ (Prod.ext hok rfl)
        rw [hdestination] at hfound
        cases hfound
        exact hfiles
      · obtain ⟨model, rfl⟩ := Job.name_of_destination (Prod.ext hdestination rfl)
        exact Signature.not_mem_serviceOf model

end Action

end ServiceShell
