import ServiceShell.Record.Scalar
import ServiceShell.Service.ErrorShape
import ServiceShell.Service.Operation
import ServiceShell.Service.Pagination
import ServiceShell.Service.Resource

/-!
# Reading the records of a service

The inverse of writing: shapes and what is derived from a model are read from their document form.
Fields that have a default may be missing; fields that no record declares are passed over.
-/

namespace ServiceShell

open Record

/-! ## Parts of documents -/

/-- The document of a field is smaller than the fields. -/
theorem Fields.sizeOf_get?_lt {key : String} {fields : Fields} {d : Document}
    (h : Fields.get? key fields = some d) : sizeOf d < sizeOf fields := by
  induction fields with
  | nil => simp at h
  | cons entry rest ih =>
    obtain ⟨k, v⟩ := entry
    by_cases hk : k = .text key
    · simp only [Fields.get?, hk, if_true, Option.some.injEq] at h
      subst h
      simp
      omega
    · have := ih (by simpa [Fields.get?, hk] using h)
      simp
      omega

/-! ## Shapes -/

/-- Reads constraints. -/
def Constraints.decode : Document → Reading Constraints :=
  record "ShapeConstraints" fun fields =>
    Constraints.mk <$> fieldD fields "min" none (optional number)
      <*> fieldD fields "max" none (optional number)
      <*> fieldD fields "pattern" none (optional text)
      <*> fieldD fields "enum" none (optional (list text))

/-- Reads the attributes of a shape. -/
def ShapeInfo.decode (fields : Fields) : Reading ShapeInfo :=
  ShapeInfo.mk <$> fieldD fields "name" none (optional text)
    <*> fieldD fields "documentation" "" text
    <*> fieldD fields "constraints" {} Constraints.decode

/-- Reads the attributes of a member. -/
def MemberInfo.decode (fields : Fields) : Reading MemberInfo :=
  MemberInfo.mk <$> field fields "name" text
    <*> fieldD fields "required" false boolean
    <*> fieldD fields "documentation" "" text
    <*> fieldD fields "deprecated" false boolean
    <*> fieldD fields "deprecation_message" none (optional text)
    <*> fieldD fields "location" none (optional text)
    <*> fieldD fields "location_name" none (optional text)

mutual

/-- Reads a shape; its kind tells the variant. -/
def Shape.decode : Document → Reading Shape
  | .object fields =>
    match Fields.get? "kind" fields with
    | some (.text "scalar") =>
      Shape.scalar <$> ShapeInfo.decode fields <*> field fields "type_name" text
    | some (.text "enum") =>
      Shape.choice <$> ShapeInfo.decode fields <*> fieldD fields "choices" [] (list text)
    | some (.text "structure") =>
      let members := match h : Fields.get? "members" fields with
        | none => .read []
        | some (.list items) =>
          have := Fields.sizeOf_get?_lt h
          .under "members" (decodeMembers items)
        | some _ => .refuse .notList
      Shape.record <$> ShapeInfo.decode fields <*> members
        <*> fieldD fields "self_referencing" false boolean
        <*> fieldD fields "exception" false boolean
    | some (.text "list") =>
      Shape.list <$> ShapeInfo.decode fields <*> decodeField fields "member"
        <*> fieldD fields "self_referencing" false boolean
    | some (.text "map") =>
      Shape.map <$> ShapeInfo.decode fields <*> decodeField fields "key"
        <*> decodeField fields "value"
        <*> fieldD fields "self_referencing" false boolean
    | some (.text "any") =>
      Shape.any <$> ShapeInfo.decode fields <*> fieldD fields "reason" "" text
        <*> fieldD fields "self_referencing" false boolean
        <*> fieldD fields "union" false boolean
        <*> fieldD fields "reference" none (optional text)
    | _ => .refuse .notAllowed
  | _ => .refuse .notObject
termination_by d => 3 * sizeOf d
decreasing_by
  all_goals
    simp only [Document.object.sizeOf_spec, Document.list.sizeOf_spec] at *
    omega

/-- Reads the shape in a field. -/
def decodeField (fields : Fields) (name : String) : Reading Shape :=
  match h : Fields.get? name fields with
  | none => .under name (.refuse .missing)
  | some d =>
    have := Fields.sizeOf_get?_lt h
    .under name (Shape.decode d)
termination_by 3 * sizeOf fields + 2
decreasing_by omega

/-- Reads the members of a record. -/
def decodeMembers : List Document → Reading (List (Member Shape))
  | [] => .read []
  | .object fields :: rest =>
    List.cons <$> (Member.mk <$> MemberInfo.decode fields <*> decodeField fields "shape")
      <*> decodeMembers rest
  | _ :: _ => .refuse (.notRecord "ShapeMember")
termination_by items => 3 * sizeOf items + 1
decreasing_by
  all_goals
    simp only [List.cons.sizeOf_spec, Document.object.sizeOf_spec]
    omega

end

/-! ## Operations and what belongs to them -/

/-- Reads an operation. -/
def Operation.decode : Document → Reading Operation :=
  record "Operation" fun fields =>
    Operation.mk <$> field fields "name" text
      <*> field fields "original_name" text
      <*> fieldD fields "http_method" "POST" text
      <*> fieldD fields "http_uri" "/" text
      <*> fieldD fields "input_shape" none (optional text)
      <*> fieldD fields "output_shape" none (optional text)
      <*> fieldD fields "input" .empty Shape.decode
      <*> fieldD fields "output" .empty Shape.decode
      <*> fieldD fields "errors" [] (list text)
      <*> fieldD fields "documentation" "" text
      <*> fieldD fields "deprecated" false boolean
      <*> fieldD fields "deprecation_message" none (optional text)

/-- Reads the word for whose fault an error is. -/
def Fault.decode : Document → Reading Fault
  | .text "client" => .read .client
  | .text "server" => .read .server
  | _ => .refuse .notAllowed

/-- Reads an error descriptor. -/
def ErrorDescriptor.decode : Document → Reading ErrorDescriptor :=
  record "ErrorDescriptor" fun fields =>
    ErrorDescriptor.mk <$> field fields "name" text
      <*> fieldD fields "code" none (optional text)
      <*> fieldD fields "http_status" none (optional integer)
      <*> fieldD fields "retryable" false boolean
      <*> fieldD fields "throttling" false boolean
      <*> fieldD fields "fault" none (optional Fault.decode)
      <*> fieldD fields "description" "" text

/-- Reads one name or several. -/
def PageKey.decode : Document → Reading PageKey
  | .text name => .read (.one name)
  | d => PageKey.several <$> list text d

/-- Reads the word for a source. -/
def PageSource.decode : Document → Reading PageSource
  | .text "explicit" => .read .explicit
  | .text "inferred" => .read .inferred
  | _ => .refuse .notAllowed

/-- Reads a pagination descriptor. -/
def Pagination.decode : Document → Reading Pagination :=
  record "PaginationDescriptor" fun fields =>
    Pagination.mk <$> fieldD fields "paginated" false boolean
      <*> fieldD fields "input_token" Option.none (optional PageKey.decode)
      <*> fieldD fields "output_token" Option.none (optional PageKey.decode)
      <*> fieldD fields "limit_key" Option.none (optional text)
      <*> fieldD fields "result_key" Option.none (optional PageKey.decode)
      <*> fieldD fields "source" Option.none (optional PageSource.decode)

/-- Reads a resource. -/
def Resource.decode : Document → Reading Resource :=
  record "Resource" fun fields =>
    Resource.mk <$> field fields "name" text <*> fieldD fields "operations" [] (list text)

end ServiceShell
