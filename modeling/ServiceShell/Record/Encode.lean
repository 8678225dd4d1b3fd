import ServiceShell.Service.ErrorShape
import ServiceShell.Service.Metadata
import ServiceShell.Service.Operation
import ServiceShell.Service.Pagination
import ServiceShell.Service.Resource

/-!
# Records of a service

The document form of shapes and of what is derived from a model. Every field is written, also those
that have their default value, in the order in which the record declares them.

Records are made of shapes of any depth here. That there are only so many levels is a condition of
its own, `Shape.isRecordable`, which is asked where the record of a whole schema is made.

Current gaps:

- The levels are counted for schemas and signatures only, not for a shape, an operation or a type
  that is recorded on its own.
- Where lists or maps are mixed with records, the serializer can tell the same refusal in other
  words: that an identity is repeated, not that the depth is exceeded.
-/

namespace ServiceShell

open Document

/-! ## Shapes -/

/-- A number, or no value. -/
def encodeNumber? : Option Number → Document
  | some n => .scalar (.number n)
  | none => .null

/-- An integer, or no value. -/
def encodeInt? : Option Int → Document
  | some n => .int n
  | none => .null

/-- The record of constraints. -/
def Constraints.encode (c : Constraints) : Document :=
  ofPairs [
    ("min", encodeNumber? c.min),
    ("max", encodeNumber? c.max),
    ("pattern", ofText? c.pattern),
    ("enum", match c.choices with
      | some choices => ofTexts choices
      | none => .null)]

/-- The fields that every shape has. -/
def ShapeInfo.encode (i : ShapeInfo) : List (String × Document) :=
  [("name", ofText? i.name), ("documentation", .text i.documentation),
   ("constraints", i.constraints.encode)]

/-- The record of a member, given the record of its shape. -/
def MemberInfo.encode (i : MemberInfo) (shape : Document) : Document :=
  ofPairs [
    ("name", .text i.name),
    ("shape", shape),
    ("required", .bool i.required),
    ("documentation", .text i.documentation),
    ("deprecated", .bool i.deprecated),
    ("deprecation_message", ofText? i.deprecationMessage),
    ("location", ofText? i.location),
    ("location_name", ofText? i.locationName)]

mutual

/-- The record of a shape; its kind tells the variant. -/
def Shape.encode : Shape → Document
  | .scalar i type =>
    ofPairs (i.encode ++ [("kind", .text "scalar"), ("type_name", .text type)])
  | .choice i choices =>
    ofPairs (i.encode ++ [("kind", .text "enum"), ("choices", ofTexts choices)])
  | .record i members selfReferencing exception =>
    ofPairs (i.encode ++ [("kind", .text "structure"), ("members", .list (encodeMembers members)),
      ("self_referencing", .bool selfReferencing), ("exception", .bool exception)])
  | .list i element selfReferencing =>
    ofPairs (i.encode ++ [("kind", .text "list"), ("member", element.encode),
      ("self_referencing", .bool selfReferencing)])
  | .map i key value selfReferencing =>
    ofPairs (i.encode ++ [("kind", .text "map"), ("key", key.encode), ("value", value.encode),
      ("self_referencing", .bool selfReferencing)])
  | .any i reason selfReferencing isUnion reference =>
    ofPairs (i.encode ++ [("kind", .text "any"), ("reason", .text reason),
      ("self_referencing", .bool selfReferencing), ("union", .bool isUnion),
      ("reference", ofText? reference)])

/-- The records of members. -/
def encodeMembers : List (Member Shape) → List Document
  | [] => []
  | ⟨i, shape⟩ :: rest => i.encode shape.encode :: encodeMembers rest

end

/-! ## Depth -/

/-- The greatest number of levels of a record. -/
def levelLimit : Nat := 255

/-- The levels at the entrance to a shape. The serializer has a form for each kind of container, and
makes these in an order: records are 0, lists 1, maps 2, and operations, which are around all of
them, are 3. A shape whose form was made before the form around it is entered as a part of that one
and once more in its own; any other is entered once. -/
def entrance (form around : Nat) : Nat := if form < around then 2 else 1

mutual

/-- The levels of the record of a shape inside a form, which is given by its place in that order. Of
the forms around a shape the one that was made first counts. -/
def Shape.levels (around : Nat) : Shape → Nat
  | .scalar .. | .choice .. | .any .. => 1
  | .record _ members _ _ => entrance 0 around + max 1 (memberLevels members)
  | .list _ element _ => entrance 1 around + element.levels (min 1 around)
  | .map _ key value _ =>
    entrance 2 around + max (key.levels (min 2 around)) (value.levels (min 2 around))

/-- The levels of the records of members. Each is a level around its shape, and has a form that was
made before all others. -/
def memberLevels : List (Member Shape) → Nat
  | [] => 0
  | ⟨_, shape⟩ :: rest => max (1 + shape.levels 0) (memberLevels rest)

end

/-- Whether a shape of an operation has few enough levels for a record. -/
def Shape.isRecordable (s : Shape) : Bool := s.levels 3 ≤ levelLimit

theorem Shape.isRecordable_iff {s : Shape} : s.isRecordable = true ↔ s.levels 3 ≤ levelLimit :=
  decide_eq_true_iff

/-! ## Services -/

/-- The record of the metadata of a service. -/
def Metadata.encode (m : Metadata) : Document :=
  ofPairs [
    ("api_version", .text m.apiVersion),
    ("protocol", .text m.protocol),
    ("service_full_name", .text m.serviceFullName),
    ("endpoint_prefix", .text m.endpointPrefix),
    ("signature_version", .text m.signatureVersion),
    ("service_id", .text m.serviceId)]

/-- The record of an operation. -/
def Operation.encode (o : Operation) : Document :=
  ofPairs [
    ("name", .text o.name),
    ("original_name", .text o.modelName),
    ("http_method", .text o.httpMethod),
    ("http_uri", .text o.httpUri),
    ("input_shape", ofText? o.inputShape),
    ("output_shape", ofText? o.outputShape),
    ("input", o.input.encode),
    ("output", o.output.encode),
    ("errors", ofTexts o.errors),
    ("documentation", .text o.documentation),
    ("deprecated", .bool o.deprecated),
    ("deprecation_message", ofText? o.deprecationMessage)]

/-- The word for whose fault an error is. -/
def Fault.word : Fault → String
  | .client => "client"
  | .server => "server"

/-- The record of an error descriptor. -/
def ErrorDescriptor.encode (e : ErrorDescriptor) : Document :=
  ofPairs [
    ("name", .text e.name),
    ("code", ofText? e.code),
    ("http_status", encodeInt? e.httpStatus),
    ("retryable", .bool e.retryable),
    ("throttling", .bool e.throttling),
    ("fault", ofText? (e.fault.map Fault.word)),
    ("description", .text e.description)]

/-- One name as a text, several as a list. -/
def PageKey.encode : PageKey → Document
  | .one name => .text name
  | .several names => ofTexts names

/-- A page key, or no value. -/
def encodePageKey? : Option PageKey → Document
  | some key => key.encode
  | none => .null

/-- The record of a pagination descriptor. -/
def Pagination.encode (p : Pagination) : Document :=
  ofPairs [
    ("paginated", .bool p.paginated),
    ("input_token", encodePageKey? p.inputToken),
    ("output_token", encodePageKey? p.outputToken),
    ("limit_key", ofText? p.limitKey),
    ("result_key", encodePageKey? p.resultKey),
    ("source", ofText? (p.source.map PageSource.word))]

/-- The record of a resource. -/
def Resource.encode (r : Resource) : Document :=
  ofPairs [("name", .text r.name), ("operations", ofTexts r.operations)]

end ServiceShell
