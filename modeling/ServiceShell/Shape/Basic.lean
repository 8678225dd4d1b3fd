import ServiceShell.Document.Basic

/-!
# Resolved shapes

A resolved shape is a self-contained tree that describes a data type of a service: scalars, choices,
records with members, lists, maps, and `any` where a type cannot or must not be expanded. No name
has to be looked up any more.

A record, list or map that some leaf below it refers back to is marked as self-referencing; the
leaf itself is an `any` that names what it refers to.
-/

namespace ServiceShell

/-! ## Attributes -/

/-- The constraints on the values of a shape. -/
structure Constraints where
  /-- The least value or length. -/
  min : Option Number := none
  /-- The greatest value or length. -/
  max : Option Number := none
  /-- A pattern for texts. -/
  pattern : Option String := none
  /-- The allowed texts. -/
  choices : Option (List String) := none
  deriving DecidableEq, Inhabited

/-- What every shape carries. -/
structure ShapeInfo where
  /-- The name of the shape in the model. -/
  name : Option String := none
  /-- The documentation of the shape, still marked up. -/
  documentation : String := ""
  /-- The constraints on its values. -/
  constraints : Constraints := {}
  deriving DecidableEq, Inhabited

/-- What a member of a record carries beside its shape. -/
structure MemberInfo where
  /-- The name of the member. -/
  name : String
  /-- Whether every value has the member. -/
  required : Bool := false
  /-- The documentation of the member, still marked up. -/
  documentation : String := ""
  /-- Whether the member is deprecated. -/
  deprecated : Bool := false
  /-- What to use instead of a deprecated member. -/
  deprecationMessage : Option String := none
  /-- Where the member travels in a request. -/
  location : Option String := none
  /-- The name under which it travels there. -/
  locationName : Option String := none
  deriving DecidableEq, Inhabited

/-- A member of a record: its attributes and its shape. -/
structure Member (σ : Type) where
  /-- The attributes of the member. -/
  info : MemberInfo
  /-- The shape of its values. -/
  shape : σ

/-- The name of a member. -/
abbrev Member.name {σ : Type} (m : Member σ) : String := m.info.name

/-- Whether a member is required. -/
abbrev Member.required {σ : Type} (m : Member σ) : Bool := m.info.required

/-! ## Shapes -/

/-- A resolved shape. -/
inductive Shape where
  /-- A primitive value of the named type. -/
  | scalar (info : ShapeInfo) (type : String)
  /-- A text that is one of some choices. -/
  | choice (info : ShapeInfo) (choices : List String)
  /-- Named members in declared order; an exception is one that a service raises. -/
  | record (info : ShapeInfo) (members : List (Member Shape)) (selfReferencing exception : Bool)
  /-- A sequence of values of one shape. -/
  | list (info : ShapeInfo) (element : Shape) (selfReferencing : Bool)
  /-- Values found by keys. -/
  | map (info : ShapeInfo) (key value : Shape) (selfReferencing : Bool)
  /-- Any value, with the reason why no more is known, whether that is a reference back to a shape
  around it, whether it is a union, and the name referred to. -/
  | any (info : ShapeInfo) (reason : String) (selfReferencing isUnion : Bool)
      (reference : Option String)

namespace Shape

/-- The record without members. -/
def empty : Shape := .record {} [] false false

instance : Inhabited Shape := ⟨empty⟩

/-- The attributes of a shape. -/
def info : Shape → ShapeInfo
  | .scalar i _ => i
  | .choice i _ => i
  | .record i _ _ _ => i
  | .list i _ _ => i
  | .map i _ _ _ => i
  | .any i _ _ _ _ => i

/-- The constraints on the values of a shape. -/
def constraints (s : Shape) : Constraints := s.info.constraints

/-- Whether a shape is a list. -/
def isList : Shape → Bool
  | .list .. => true
  | _ => false

/-- Whether a shape is marked as self-referencing. -/
def selfReferencing : Shape → Bool
  | .record _ _ b _ => b
  | .list _ _ b => b
  | .map _ _ _ b => b
  | .any _ _ b _ _ => b
  | _ => false

/-- The members of a record; any other shape has none. -/
def members : Shape → List (Member Shape)
  | .record _ ms _ _ => ms
  | _ => []

/-- The word for the variant of a shape. -/
def kind : Shape → String
  | .scalar .. => "scalar"
  | .choice .. => "enum"
  | .record .. => "structure"
  | .list .. => "list"
  | .map .. => "map"
  | .any .. => "any"

end Shape

/-- The first member with a name. -/
def findMember? (members : List (Member Shape)) (name : String) : Option (Member Shape) :=
  members.find? fun m => m.name = name

end ServiceShell
