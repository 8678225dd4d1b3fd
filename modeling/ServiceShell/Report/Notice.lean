import ServiceShell.Service.Pagination
import ServiceShell.Signature.Assembly

/-!
# Notices

What the parts of the generator have to say about a model while they work on it. A notice is read
off what a part made: a shape that had to fall back tells why, an operation tells how its pages
were found.
-/

namespace ServiceShell

/-! ## Notices -/

/-- Something that a part of the generator noticed. -/
inductive Notice where
  /-- A shape refers back to one around it. -/
  | cycle (name : String)
  /-- A shape has no definition. -/
  | undefined (name : String)
  /-- A definition has no type. -/
  | untyped (name : String)
  /-- The members of a definition are no object. -/
  | malformedMembers (name : String)
  /-- An operation has no definition. -/
  | noDefinition (operation : String)
  /-- The pagination of an operation was inferred. -/
  | inferredPages (members : Pagination.Inferred)
  /-- The input of an operation is no record, for a reason. -/
  | anyArguments (operation reason : String)
  /-- The schema of a service was made. -/
  | builtSchema (service : String) (count : Nat)
  /-- Several workers make signatures. -/
  | severalWorkers (count : Nat) (workers : Int)
  deriving DecidableEq

namespace Notice

/-- The part that noticed it. -/
def part : Notice → String
  | cycle _ | undefined _ | untyped _ | malformedMembers _ => "parser.resolver"
  | noDefinition _ => "parser.extractor"
  | inferredPages _ => "inference.pagination"
  | anyArguments .. => "generator.signature"
  | builtSchema .. => "schema"
  | severalWorkers .. => "generator.batch"

/-- The sentence that tells it. -/
def text : Notice → String
  | cycle name => s!"Breaking shape cycle at {name}"
  | undefined name => s!"Shape {name} is not defined; using any"
  | untyped name => s!"Shape {name} has no type; using any"
  | malformedMembers name => s!"Structure {name} has malformed members; using any"
  | noDefinition operation => s!"Operation {operation} has no definition; using fallbacks"
  | inferredPages i =>
    s!"Inferred pagination: {i.inputToken} -> {i.outputToken} "
      ++ s!"(limit {i.limitKey}, results {i.resultKey})"
  | anyArguments operation reason =>
    s!"Operation {operation}: {reason}; accepting any arguments"
  | builtSchema service count => s!"Built schema for {service} with {count} operations"
  | severalWorkers count workers => s!"Generating {count} signatures with {workers} workers"

end Notice

/-! ## Shapes -/

namespace Shape

/-- What a shape with a name that had to fall back tells, given the reason. -/
def namedNotice? (name reason : String) : Option Notice :=
  if reason = (Fallback.undefined name).reason then some (.undefined name)
  else if reason = (Fallback.untyped name).reason then some (.untyped name)
  else if reason = (Fallback.malformedMembers name).reason then some (.malformedMembers name)
  else none

/-- What an `any` tells. -/
def anyNotice? (info : ShapeInfo) (reason : String) (reference : Option String) : Option Notice :=
  match reference with
  | some name => some (.cycle name)
  | none => info.name.bind fun name => namedNotice? name reason

mutual

/-- What was noticed when a shape was resolved, in the order of the tree. -/
def notices : Shape → List Notice
  | .scalar .. | .choice .. => []
  | .record _ members _ _ => memberNotices members
  | .list _ element _ => notices element
  | .map _ key value _ => notices key ++ notices value
  | .any info reason _ _ reference => (anyNotice? info reason reference).toList

/-- What was noticed when the members of a record were resolved. -/
def memberNotices : List (Member Shape) → List Notice
  | [] => []
  | ⟨_, shape⟩ :: rest => notices shape ++ memberNotices rest

end

end Shape

/-! ## Operations -/

/-- What was noticed when an entry of a model was read as an operation with an input and an
output. -/
def entryNotices (entry : String × Document) (input output : Shape) : List Notice :=
  (if entry.2.isObject then [] else [.noDefinition entry.1]) ++ input.notices ++ output.notices

/-- What was noticed when the pagination of an operation was found. -/
def Pagination.notices (p : Pagination) : List Notice :=
  match p with
  | { source := some .inferred, inputToken := some (.one inputToken),
      outputToken := some (.one outputToken), limitKey := some limitKey,
      resultKey := some (.one resultKey), .. } =>
    [.inferredPages ⟨inputToken, outputToken, limitKey, resultKey⟩]
  | _ => []

/-- What was noticed when the parameters of an operation were made. -/
def Operation.parameterNotices (o : Operation) : List Notice :=
  match o.input with
  | .record .. => []
  | input => [.anyArguments o.modelName input.inputReason]

end ServiceShell
