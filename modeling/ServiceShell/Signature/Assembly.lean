import ServiceShell.Host.Mapping
import ServiceShell.Service.ErrorShape
import ServiceShell.Signature.Completion
import ServiceShell.Text.Naming
import ServiceShell.Text.Plain

/-!
# From operations to signatures

The required members of the input become positional parameters, the optional ones named parameters,
both in declared order. All of them share one set of variables. The output becomes the return type;
when it wraps one list of data, the list is returned.

Where a type had to fall back, a comment says why.
-/

namespace ServiceShell

/-! ## Parameters -/

namespace Parameter

/-- The name that a member asks for: a variable for a required one, a hyphenated name else. -/
def wantedName (m : MemberInfo) : String :=
  if m.required then Naming.identifier m.name
  else
    let name := Naming.kebab m.name
    if name = "" then "param" else name

/-- What stands before the number of a name that was taken. -/
def separator (m : MemberInfo) : String := if m.required then "_" else "-"

/-- The text that documents a member: its own, or that of its shape. -/
def documentationOf (m : Member Shape) : String :=
  if m.info.documentation = "" then m.shape.info.documentation else m.info.documentation

/-- The parameter of a member under a name. -/
def ofMember (settings : GeneratorSettings) (service name : String) (m : Member Shape) :
    Parameter :=
  let type := m.shape.type (.ofField m.name)
  { name
    modelName := m.name
    type
    required := m.required
    positional := m.required
    flag := !m.required && type.kind = .bool
    completion := CompletionHint.forParameter settings service m.name type
    documentation := Text.summary (documentationOf m) Text.summaryLimit
    deprecated := m.info.deprecated
    deprecationMessage := m.info.deprecationMessage }

/-- The parameters of members, whose variables differ from each other and from those taken. -/
def ofMembersFrom (settings : GeneratorSettings) (service : String) (taken : List String) :
    List (Member Shape) → List Parameter
  | [] => []
  | m :: rest =>
    let name := Naming.firstFree Naming.variableOf taken (wantedName m.info) (separator m.info)
    ofMember settings service name m ::
      ofMembersFrom settings service (Naming.variableOf name :: taken) rest

/-- The members of an input in the order of their parameters: first those that are required. -/
def inOrder (members : List (Member Shape)) : List (Member Shape) :=
  members.filter (·.required) ++ members.filter fun m => !m.required

/-- The parameters of the members of an input. -/
def ofMembers (settings : GeneratorSettings) (service : String) (members : List (Member Shape)) :
    List Parameter :=
  ofMembersFrom settings service [] (inOrder members)

/-- The name of the parameter that takes all arguments. -/
def restName : String := "args"

/-- The parameter that takes all arguments, because nothing is known about them. -/
def takingAll (reason : String) : Parameter :=
  { name := restName
    modelName := ""
    type := { kind := .any, note := some reason }
    rest := true }

/-- A comment that begins with a label, if there is a note. -/
def noteComment? (label : String) (note : Option String) : Option String :=
  match note with
  | none | some "" => none
  | some note => some (label ++ ": " ++ note)

/-- The comment on a parameter whose type had to fall back. -/
def comment? (p : Parameter) : Option String := noteComment? p.name p.type.note

end Parameter

/-! ## Input -/

/-- Why nothing is known about the arguments of an input that is no record. -/
def Shape.inputReason : Shape → String
  | .any _ reason _ _ _ => if reason = "" then "input is not a structure" else reason
  | _ => "input is not a structure"

/-- The parameters for an input, and the comments on them. -/
def inputParameters (settings : GeneratorSettings) (service : String) (input : Shape) :
    List Parameter × List String :=
  match input with
  | .record _ members _ _ =>
    let parameters := Parameter.ofMembers settings service members
    (parameters, parameters.filterMap Parameter.comment?)
  | input =>
    let reason := input.inputReason
    ([Parameter.takingAll reason],
      [s!"input shape could not be resolved ({reason}); accepting any arguments"])

/-! ## Output -/

/-- The compact names of output members that have to do with pages. -/
def pagingNames : List String :=
  ["nexttoken", "marker", "nextmarker", "istruncated", "continuationtoken", "nextcontinuationtoken"]

/-- The list members of an output that hold data. -/
def dataLists (members : List (Member Shape)) : List String :=
  (members.filter fun m => m.shape.isList && !pagingNames.contains (Pagination.compact m.name)).map
    Member.name

/-- The list that the pagination descriptor names as the data. -/
def resultList? (members : List (Member Shape)) (pagination : Pagination) : Option String :=
  match pagination.resultKey with
  | some (.one key) =>
    match findMember? members key with
    | some m => if m.shape.isList then some key else none
    | none => none
  | _ => none

/-- The one list of an output that holds its data, if that is clear. -/
def dataList? (members : List (Member Shape)) (pagination : Pagination) : Option String :=
  match resultList? members pagination with
  | some key => some key
  | none =>
    match dataLists members with
    | [name] => some name
    | _ => none

/-- The member that is returned in place of an output. -/
def unwrapped? (settings : GeneratorSettings) (pagination : Pagination) (output : Shape) :
    Option (Member Shape) :=
  match output with
  | .record _ members false _ =>
    if settings.unwrapListOutputs then
      (dataList? members pagination).bind (findMember? members)
    else none
  | _ => none

/-- Whether an output is a record without members. -/
def Shape.isEmptyRecord : Shape → Bool
  | .record _ [] false _ => true
  | _ => false

/-- The return type of an operation, and the member that it unwraps. -/
def outputType (settings : GeneratorSettings) (pagination : Pagination) (o : Operation) :
    HostType × Option String :=
  if o.outputShape.isNone || o.output.isEmptyRecord then (.plain .nothing, none)
  else
    match unwrapped? settings pagination o.output with
    | some m => (m.shape.type (.ofField m.name), some m.name)
    | none => (o.output.type {}, none)

/-! ## Comments -/

/-- The errors of an operation for which a retry makes sense. Of descriptors with one name the last
counts. -/
def retryableErrors (names : List String) (descriptors : List ErrorDescriptor) : List String :=
  names.filter fun name =>
    (descriptors.reverse.find? fun d => d.name = name).any ErrorDescriptor.retryable

/-- The comment that an output comes in pages. -/
def pageComment? (p : Pagination) : Option String :=
  if p.paginated then some s!"paginated ({(p.source.getD .explicit).word})" else none

/-- The comment on errors for which a retry makes sense. -/
def retryComment? (names : List String) (descriptors : List ErrorDescriptor) : Option String :=
  match retryableErrors names descriptors with
  | [] => none
  | names => some ("retryable errors: " ++ ", ".intercalate names)

/-- The comment on a return type that had to fall back. -/
def returnComment? (type : HostType) : Option String :=
  Parameter.noteComment? ("returns " ++ type.render) type.note

/-! ## Signatures -/

/-- The words of a command. -/
def commandWords (settings : GeneratorSettings) (service operation : String) : String :=
  settings.commandPrefix ++ " " ++ service ++ " " ++ operation

/-- The signature of an operation, whose documentation can be read. -/
def Signature.ofOperation (settings : GeneratorSettings) (service : String)
    (pagination : Pagination) (errors : List ErrorDescriptor) (o : Operation) : Signature :=
  let (parameters, comments) := inputParameters settings service o.input
  let (type, unwrapKey) := outputType settings pagination o
  { command := commandWords settings service o.name
    operation := o.name
    modelName := o.modelName
    service
    parameters
    returnType := type
    documentation := Text.summary o.documentation Text.summaryLimit
    comments := comments ++ (returnComment? type).toList ++ (pageComment? pagination).toList
      ++ (retryComment? o.errors errors).toList
    deprecated := o.deprecated
    deprecationMessage := o.deprecationMessage
    pagination
    errors := o.errors
    unwrapKey }

/-- The documentation that is summarized for an operation, in order: that of the members of its
input, and its own. -/
def Operation.documentations (o : Operation) : List String :=
  (Parameter.inOrder o.input.members).map Parameter.documentationOf ++ [o.documentation]

/-- The signature of an operation, or the number of digits of the first reference in its
documentation that has too many of them to be read. -/
def Signature.assemble (settings : GeneratorSettings) (service : String) (pagination : Pagination)
    (errors : List ErrorDescriptor) (o : Operation) : Except Nat Signature :=
  match o.documentations.findSome? Text.overlong? with
  | none => .ok (ofOperation settings service pagination errors o)
  | some count => .error count

end ServiceShell
