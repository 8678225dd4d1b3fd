import ServiceShell.Host.Type
import ServiceShell.Shape.Basic

/-!
# From shapes to types of the host shell

An ordered table of rules maps a shape to a type; the first rule that answers wins. The order is
data, so that it can be looked at and changed. What no rule claims becomes `any`.

A rule for lists gets the type of the elements, mapped by the same table.
-/

namespace ServiceShell

/-! ## Context -/

/-- What is known about the place of a shape. -/
structure TypeContext where
  /-- The name of the member that holds it. -/
  fieldName : Option String := none
  /-- The constraints of the member, if they differ from those of the shape. -/
  constraints : Option Constraints := none
  deriving DecidableEq, Inhabited

/-- The context of a member with a name. -/
def TypeContext.ofField (name : String) : TypeContext := { fieldName := some name }

/-! ## Byte counts -/

/-- Whether a text holds another. -/
def holdsText (wanted text : List Char) : Bool :=
  match text with
  | [] => wanted.isEmpty
  | c :: r => wanted.isPrefixOf (c :: r) || holdsText wanted r

/-- The names for sizes that count things other than bytes. -/
def countedThings : List String :=
  ["page", "batch", "pool", "cluster", "fleet", "group", "window", "sample", "queue", "step",
   "instance", "font", "population"]

/-- The words for byte counts. -/
def byteWords : List String := ["bytes", "size", "contentlength"]

/-- Whether a member name looks like a byte count. -/
def isByteSize (name : String) : Bool :=
  let compact := (name.toList.filter Char.isAlphanum).map Char.toLower
  !(countedThings.any fun thing => holdsText (thing ++ "size").toList compact)
    && byteWords.any fun word => holdsText word.toList compact

/-! ## Rules -/

/-- The types of primitive numbers. -/
def numericTypes : List String := ["integer", "long", "short", "byte", "float", "double"]

/-- The kinds that primitive types map to. -/
def primitiveKind? : String → Option TypeKind
  | "boolean" => some .bool
  | "string" => some .string
  | "integer" | "long" | "short" | "byte" => some .int
  | "float" | "double" => some .float
  | _ => none

/-- A name in a note; a missing one is told as such. -/
def noteName (name : Option String) : String := name.getD "None"

/-- The note on a self-referencing shape. -/
def selfReferenceNote (what : String) (name : Option String) : String :=
  s!"self-referencing {what} '{noteName name}'"

/-- A rule of the table. It gets the type of the elements of a list, the shape and its context. -/
structure MappingRule where
  /-- The name of the rule. -/
  name : String
  /-- The type that the rule gives, if it claims the shape. -/
  apply : HostType → Shape → TypeContext → Option HostType

namespace MappingRule

/-- Texts with allowed values become choices. -/
def choice : MappingRule where
  name := "enum"
  apply _ shape context :=
    match shape with
    | .choice _ choices => some { kind := .choice, choices }
    | .scalar _ "string" =>
      match context.constraints.bind Constraints.choices with
      | some (c :: cs) => some { kind := .choice, choices := c :: cs }
      | _ => none
    | _ => none

/-- Numbers whose name looks like a byte count become sizes of files. -/
def byteSize : MappingRule where
  name := "byte-size"
  apply _ shape context :=
    match shape with
    | .scalar _ type =>
      if numericTypes.contains type && context.fieldName.any isByteSize then
        some (.plain .filesize)
      else none
    | _ => none

/-- Points of time. -/
def timestamp : MappingRule where
  name := "timestamp"
  apply _ shape _ :=
    match shape with
    | .scalar _ type => if type = "timestamp" then some (.plain .datetime) else none
    | _ => none

/-- Bytes. -/
def blob : MappingRule where
  name := "blob"
  apply _ shape _ :=
    match shape with
    | .scalar _ type => if type = "blob" then some (.plain .binary) else none
    | _ => none

/-- The other primitive types. -/
def primitive : MappingRule where
  name := "primitive"
  apply _ shape _ :=
    match shape with
    | .scalar _ type => (primitiveKind? type).map .plain
    | _ => none

/-- A list of records becomes a table, unless one of the two refers back to itself. -/
def table : MappingRule where
  name := "list-of-structure"
  apply _ shape _ :=
    match shape with
    | .list info (.record element _ elementRefers _) listRefers =>
      if listRefers || elementRefers then
        let nonEmpty (name : Option String) := name.filter (· ≠ "")
        let label := ((nonEmpty element.name).or (nonEmpty info.name)).getD "element"
        some
          { kind := .list
            element := some (.plain .any)
            note := some s!"self-referencing structure '{label}' kept as a generic list" }
      else some (.plain .table)
    | _ => none

/-- Any other list becomes a list of the type of its elements. -/
def list : MappingRule where
  name := "list"
  apply element shape _ :=
    match shape with
    | .list info _ selfReferencing =>
      some
        { kind := .list
          element := some element
          note := if selfReferencing then some (selfReferenceNote "list" info.name)
            else element.note }
    | _ => none

/-- Maps become records. -/
def map : MappingRule where
  name := "map"
  apply _ shape _ :=
    match shape with
    | .map .. => some (.plain .record)
    | _ => none

/-- Records stay records, unless they refer back to themselves. -/
def record : MappingRule where
  name := "structure"
  apply _ shape _ :=
    match shape with
    | .record info _ selfReferencing _ =>
      if selfReferencing then
        some { kind := .any, note := some (selfReferenceNote "structure" info.name) }
      else some (.plain .record)
    | _ => none

/-- The table of rules, in order. -/
def all : List MappingRule :=
  [choice, byteSize, timestamp, blob, primitive, table, list, map, record]

end MappingRule

/-! ## Mapping -/

/-- The type for what no rule claims. -/
def Shape.unmapped : Shape → HostType
  | .any _ reason _ _ _ => { kind := .any, note := if reason = "" then none else some reason }
  | s => { kind := .any, note := some s!"unrecognized shape kind '{s.kind}'" }

/-- The type that the first answering rule gives, or `any`. -/
def firstAnswer (rules : List MappingRule) (element : HostType) (shape : Shape)
    (context : TypeContext) : HostType :=
  (rules.findSome? fun rule => rule.apply element shape context).getD shape.unmapped

/-- The type of a shape by a table of rules. -/
def Shape.typeWith (rules : List MappingRule) : Shape → TypeContext → HostType
  | .list info element selfReferencing, context =>
    firstAnswer rules (element.typeWith rules { fieldName := context.fieldName })
      (.list info element selfReferencing) context
  | shape, context => firstAnswer rules default shape context

/-- The type of a shape. -/
def Shape.type (shape : Shape) (context : TypeContext) : HostType :=
  shape.typeWith MappingRule.all context

/-- The type of the elements of a list, which the rules for lists ask for. -/
def Shape.elementType (shape : Shape) (context : TypeContext) : HostType :=
  match shape with
  | .list _ element _ => element.type { fieldName := context.fieldName }
  | _ => default

/-- The names of the rules that claim a shape, in order. -/
def Shape.claimingRules (shape : Shape) (context : TypeContext) : List String :=
  (MappingRule.all.filter fun rule =>
    (rule.apply (shape.elementType context) shape context).isSome).map MappingRule.name

end ServiceShell
