import ServiceShell.Service.Metadata
import ServiceShell.Signature.Assembly

/-!
# Signatures of a model

Makes a signature for every operation of a model, in its order. With several workers the signatures
are finished in some order of their own; each is put into the place of its operation.
-/

namespace ServiceShell

open Record

/-- Why a model cannot be compiled. -/
inductive CompileError where
  /-- A value does not have the form that a record needs. -/
  | invalid (failure : Failure)
  /-- A definition of an error cannot be described. -/
  | badError (refusal : ErrorDescriptor.Refusal)
  /-- The documentation of an operation has a reference by a number of so many digits, which are too
  many. -/
  | digits (count : Nat)
  /-- The metadata have an integer with too many digits to be spelled. -/
  | overlong
  /-- Shapes or types are nested too deep for a record. -/
  | tooDeep
  deriving DecidableEq, Repr

namespace Signature

/-! ## Workers -/

/-- Puts finished results into their places, given the indices in the order in which they are
finished; the first one that failed ends it. -/
def place {ε α : Type} (result : Nat → Except ε α) :
    List Nat → List (Option α) → Except ε (List (Option α))
  | [], slots => .ok slots
  | index :: rest, slots =>
    match result index with
    | .ok a => place result rest (slots.set index (some a))
    | .error e => .error e

/-- The results of some tasks, finished in an order, in the order of the tasks. -/
def gather {ε α : Type} (tasks : List (Except ε α)) (order : List Nat)
    (missing : Except ε α) : Except ε (List α) :=
  (place (fun i => tasks.getD i missing) order (tasks.map fun _ => none)).map
    (·.filterMap id)

/-! ## Models -/

/-- What all operations of a model share. -/
structure Batch where
  /-- The settings. -/
  settings : GeneratorSettings
  /-- The name of the service. -/
  service : String
  /-- The table of definitions. -/
  shapes : Fields
  /-- The pagination section. -/
  pagination : Fields
  /-- The errors of the service. -/
  errors : List ErrorDescriptor

/-- The pagination of an operation of a batch. -/
def Batch.paginationOf (b : Batch) (o : Operation) : Pagination :=
  Pagination.detect o ((Fields.get? o.modelName b.pagination).getD .null)

/-- The signature of an entry of a model. -/
def Batch.signature (b : Batch) (entry : String × Document) : Except CompileError Signature :=
  match Operation.ofEntry entry.1 entry.2 b.shapes b.settings.maxDepth with
  | .ok o => (assemble b.settings b.service (b.paginationOf o) b.errors o).mapError .digits
  | .error failure => .error (.invalid failure)

/-- A name, or the one that the metadata of a model give. -/
def serviceOf (model : Document) (service : Option String) : String :=
  match service with
  | none | some "" => (Metadata.ofModel model).serviceName Metadata.defaultServiceName
  | some name => name

/-- Whether the name of the service is left to the metadata. -/
def derivesService (service : Option String) : Bool := service.getD "" = ""

/-- What all operations of a model share. The metadata are spelled only for the name of the
service. -/
def Batch.ofModel (settings : GeneratorSettings) (service : Option String) (model : Document) :
    Except CompileError Batch :=
  let shapes := Operation.shapeTable model
  if derivesService service && Metadata.isOverlong model then .error .overlong
  else
    match ErrorDescriptor.ofTable shapes with
    | .error refusal => .error (.badError refusal)
    | .ok errors =>
      .ok
        { settings, shapes, errors
          service := serviceOf model service
          pagination := (model.getD "pagination").fields }

/-- The signatures of a model, one after the other. -/
def sequential (settings : GeneratorSettings) (service : Option String) (model : Document) :
    Except CompileError (List Signature) := do
  let batch ← Batch.ofModel settings service model
  (Operation.entries model).mapM batch.signature

/-- The signatures of a model, made by workers that finish in an order. -/
def concurrent (order : List Nat) (settings : GeneratorSettings) (service : Option String)
    (model : Document) : Except CompileError (List Signature) := do
  let batch ← Batch.ofModel settings service model
  let tasks := (Operation.entries model).map batch.signature
  gather tasks order (.error (.invalid ⟨"", []⟩))

/-- The signatures of a model. One worker, or one operation, is served in sequence. -/
def ofModel (settings : GeneratorSettings) (service : Option String) (workers : Int)
    (model : Document) : Except CompileError (List Signature) :=
  let count := (Operation.entries model).length
  if workers ≤ 1 ∨ count ≤ 1 then sequential settings service model
  else concurrent (List.range count) settings service model

end Signature

end ServiceShell
