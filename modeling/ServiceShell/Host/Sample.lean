import ServiceShell.Decimal.Layout
import ServiceShell.Host.Mapping

/-!
# Sample values

Values that show what a type or a shape holds: empty texts, least numbers, the first choice, the
present time. A sample of a record has its required members, or all of them, down to a depth.
-/

namespace ServiceShell

/-- A sample value. -/
inductive Sample where
  /-- A value without parts. -/
  | scalar (value : Scalar)
  /-- A size of a file. -/
  | fileSize (bytes : Nat)
  /-- A list without items. -/
  | emptyList
  /-- A record, with fields in order. -/
  | record (fields : List (String × Sample))

namespace Sample

/-- A size of a file as the host shell writes it. -/
def fileSizeLiteral (bytes : Nat) : String := toString bytes ++ "b"

/-- Why no sample can be given. -/
inductive Refusal where
  /-- The least number is out of range. -/
  | overflow
  /-- The least number is no number. -/
  | notANumber
  deriving DecidableEq, Repr

/-! ## Types -/

/-- The least number as an integer, its fraction dropped. -/
def leastInt : Number → Except Refusal Int
  | .int n => .ok n
  | .float x =>
    match Decimal.Parts.ofFloat x, Decimal.truncate? x with
    | .nan, _ => .error .notANumber
    | _, some n => .ok n
    | _, none => .error .overflow

/-- The least number as a double. -/
def leastFloat : Number → Except Refusal Float
  | .float x => .ok x
  | .int n =>
    let x := Decimal.toFloat (n < 0) n.natAbs 0
    if Decimal.isFinite x then .ok x else .error .overflow

/-- A sample of a type at a time, by the constraints on its values. -/
def ofType (now : Instant) (type : HostType) (constraints : Constraints) :
    Except Refusal Sample :=
  match type.kind with
  | .string => .ok (.scalar (.text ""))
  | .int =>
    match constraints.min with
    | some n => (leastInt n).map fun n => .scalar (.number (.int n))
    | none => .ok (.scalar (.number (.int 0)))
  | .float =>
    match constraints.min with
    | some n => (leastFloat n).map fun x => .scalar (.number (.float x))
    | none => .ok (.scalar (.number (.float 0.0)))
  | .bool => .ok (.scalar (.bool false))
  | .list | .table => .ok .emptyList
  | .record => .ok (.record [])
  | .binary => .ok (.scalar (.bytes []))
  | .datetime => .ok (.scalar (.instant now))
  | .choice => .ok (.scalar (.text (type.choices.headD "")))
  | .filesize => .ok (.fileSize 0)
  | .any | .nothing => .ok (.scalar .null)

/-! ## Shapes -/

/-- How samples of shapes are made. -/
structure Options where
  /-- The present time. -/
  now : Instant
  /-- Whether optional members are filled too. -/
  includeOptional : Bool

/-- How many levels of records are expanded when nothing else is said. -/
def defaultDepth : Int := 4

/-- Gives a field a value; of two members with one name the later one counts. -/
def putField (name : String) (value : Sample) : List (String × Sample) → List (String × Sample)
  | [] => [(name, value)]
  | (n, v) :: rest => if n = name then (n, value) :: rest else (n, v) :: putField name value rest

mutual

/-- A sample of a shape in a member, with `depth` levels of records left. -/
def ofShapeAt (options : Options) (depth : Int) (context : TypeContext) :
    Shape → Except Refusal Sample
  | .record info members selfReferencing exception =>
    if selfReferencing then
      let shape := Shape.record info members selfReferencing exception
      ofType options.now (shape.type context) info.constraints
    else if depth ≤ 0 then .ok (.record [])
    else (ofMembers options (depth - 1) [] members).map .record
  | shape => ofType options.now (shape.type context) shape.constraints

/-- Adds the samples of members to the fields of a record. -/
def ofMembers (options : Options) (depth : Int) (fields : List (String × Sample)) :
    List (Member Shape) → Except Refusal (List (String × Sample))
  | [] => .ok fields
  | ⟨info, shape⟩ :: rest =>
    if info.required || options.includeOptional then do
      let value ← ofShapeAt options depth (.ofField info.name) shape
      ofMembers options depth (putField info.name value fields) rest
    else ofMembers options depth fields rest

end

/-- A sample of a shape. -/
def ofShape (options : Options) (depth : Int) (shape : Shape) : Except Refusal Sample :=
  ofShapeAt options depth {} shape

/-! ## Documents -/

mutual

/-- A sample as a document; a size of a file is a plain number there. -/
def toDocument : Sample → Document
  | .scalar s => .scalar s
  | .fileSize bytes => .int bytes
  | .emptyList => .list []
  | .record fields => .object (fieldsToDocument fields)

/-- The fields of a sample as fields of a document. -/
def fieldsToDocument : List (String × Sample) → Fields
  | [] => []
  | (name, value) :: rest => (.text name, value.toDocument) :: fieldsToDocument rest

end

end Sample

end ServiceShell
