import ServiceShell.Host.Column
import ServiceShell.Record.Decode
import ServiceShell.Record.Encode
import ServiceShell.Signature.Batch

/-!
# Records of signatures

The document form of types, columns, completion hints, parameters and signatures, and how each is
read back.
-/

namespace ServiceShell

open Document Record

/-! ## Types -/

/-- The record of a type. -/
def HostType.encode : HostType → Document
  | ⟨kind, element, choices, note⟩ =>
    ofPairs [
      ("kind", .text kind.word),
      ("element", match element with
        | some e => e.encode
        | none => .null),
      ("choices", ofTexts choices),
      ("note", ofText? note)]

/-- The levels of the record of a type: one for each type inside the other. -/
def HostType.levels : HostType → Nat
  | ⟨_, element, _, _⟩ =>
    match element with
    | some e => 1 + e.levels
    | none => 1

/-- Whether a type of a signature has few enough levels for a record. Its form was made before that
of signatures, so the outermost type is entered twice. -/
def HostType.isRecordable (type : HostType) : Bool := 1 + type.levels ≤ levelLimit

theorem HostType.isRecordable_iff {type : HostType} :
    type.isRecordable = true ↔ 1 + type.levels ≤ levelLimit :=
  decide_eq_true_iff

/-- Reads the word for a kind of type. -/
def TypeKind.decode : Document → Reading TypeKind
  | .text word =>
    match ofWord? word with
    | some kind => .read kind
    | none => .refuse .notAllowed
  | _ => .refuse .notAllowed

/-- Reads a type. -/
def HostType.decode : Document → Reading HostType
  | .object fields =>
    let element := match h : Fields.get? "element" fields with
      | none => .read none
      | some d =>
        if d.isNull then .read none
        else
          have := Fields.sizeOf_get?_lt h
          .under "element" (some <$> HostType.decode d)
    HostType.mk <$> field fields "kind" TypeKind.decode <*> element
      <*> fieldD fields "choices" [] (list text)
      <*> fieldD fields "note" none (optional text)
  | _ => .refuse (.notRecord "TargetType")
termination_by d => sizeOf d
decreasing_by
  simp only [Document.object.sizeOf_spec]
  omega

/-- Reads the context of a shape. -/
def TypeContext.decode : Document → Reading TypeContext :=
  record "TypeContext" fun fields =>
    TypeContext.mk <$> fieldD fields "field_name" none (optional text)
      <*> fieldD fields "constraints" none (optional Constraints.decode)

/-- The record of a column. -/
def Column.encode (c : Column) : Document :=
  ofPairs [("name", .text c.name), ("type", c.type.encode)]

/-! ## Completion -/

/-- The record of a completion hint. -/
def CompletionHint.encode (h : CompletionHint) : Document :=
  ofPairs [
    ("kind", .text h.kind.word),
    ("choices", ofTexts h.choices),
    ("resource", ofText? h.resource),
    ("service", ofText? h.service)]

/-- Reads the word for a kind of completion. -/
def CompletionKind.decode : Document → Reading CompletionKind
  | .text "static" => .read .static
  | .text "dynamic" => .read .dynamic
  | _ => .refuse .notAllowed

/-- Reads a completion hint. -/
def CompletionHint.decode : Document → Reading CompletionHint :=
  record "CompletionHint" fun fields =>
    CompletionHint.mk <$> field fields "kind" CompletionKind.decode
      <*> fieldD fields "choices" [] (list text)
      <*> fieldD fields "resource" none (optional text)
      <*> fieldD fields "service" none (optional text)

/-! ## Signatures -/

/-- The record of a parameter. -/
def Parameter.encode (p : Parameter) : Document :=
  ofPairs [
    ("name", .text p.name),
    ("original_name", .text p.modelName),
    ("type", p.type.encode),
    ("required", .bool p.required),
    ("positional", .bool p.positional),
    ("flag", .bool p.flag),
    ("rest", .bool p.rest),
    ("completion", match p.completion with
      | some hint => hint.encode
      | none => .null),
    ("documentation", .text p.documentation),
    ("deprecated", .bool p.deprecated),
    ("deprecation_message", ofText? p.deprecationMessage)]

/-- Reads a parameter. -/
def Parameter.decode : Document → Reading Parameter :=
  record "SignatureParameter" fun fields =>
    Parameter.mk <$> field fields "name" text
      <*> field fields "original_name" text
      <*> field fields "type" HostType.decode
      <*> fieldD fields "required" false boolean
      <*> fieldD fields "positional" false boolean
      <*> fieldD fields "flag" false boolean
      <*> fieldD fields "rest" false boolean
      <*> fieldD fields "completion" none (optional CompletionHint.decode)
      <*> fieldD fields "documentation" "" text
      <*> fieldD fields "deprecated" false boolean
      <*> fieldD fields "deprecation_message" none (optional text)

/-- The record of a signature, however deep its types are. -/
def Signature.encode (s : Signature) : Document :=
  ofPairs [
    ("command", .text s.command),
    ("operation", .text s.operation),
    ("original_name", .text s.modelName),
    ("service", .text s.service),
    ("parameters", .list (s.parameters.map Parameter.encode)),
    ("return_type", s.returnType.encode),
    ("documentation", .text s.documentation),
    ("comments", ofTexts s.comments),
    ("deprecated", .bool s.deprecated),
    ("deprecation_message", ofText? s.deprecationMessage),
    ("pagination", s.pagination.encode),
    ("errors", ofTexts s.errors),
    ("unwrap_key", ofText? s.unwrapKey)]

/-- The types of a signature. -/
def Signature.types (s : Signature) : List HostType := s.returnType :: s.parameters.map (·.type)

/-- The record of a signature, unless a type is nested too deep for one. -/
def Signature.toRecord (s : Signature) : Except CompileError Document :=
  if s.types.all HostType.isRecordable then .ok s.encode else .error .tooDeep

/-- Reads a signature. -/
def Signature.decode : Document → Reading Signature :=
  record "Signature" fun fields =>
    Signature.mk <$> field fields "command" text
      <*> field fields "operation" text
      <*> field fields "original_name" text
      <*> field fields "service" text
      <*> fieldD fields "parameters" [] (list Parameter.decode)
      <*> field fields "return_type" HostType.decode
      <*> fieldD fields "documentation" "" text
      <*> fieldD fields "comments" [] (list text)
      <*> fieldD fields "deprecated" false boolean
      <*> fieldD fields "deprecation_message" none (optional text)
      <*> fieldD fields "pagination" {} Pagination.decode
      <*> fieldD fields "errors" [] (list text)
      <*> fieldD fields "unwrap_key" none (optional text)

end ServiceShell
