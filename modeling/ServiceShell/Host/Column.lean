import ServiceShell.Host.Mapping
import ServiceShell.Text.Naming

/-!
# Columns

The columns that a table of records has. Nested records are flattened, with the name of the outer
member before that of the inner one; lists and maps keep one column. Columns whose names would be
equal get numbers.
-/

namespace ServiceShell

/-- A column of a table. -/
structure Column where
  /-- The name of the column. -/
  name : String
  /-- The type of its values. -/
  type : HostType
  deriving Inhabited

namespace Column

/-- How many levels of records are flattened when nothing else is said. -/
def defaultDepth : Int := 4

/-- The name of the column of a member inside the members that `outer` names. -/
def nameIn (outer : Option String) (member : String) : String :=
  let own := Naming.kebab member
  let own := if own = "" then "column" else own
  match outer with
  | some outer => outer ++ "-" ++ own
  | none => own

/-- Whether a shape is a record that can be expanded. -/
def isExpandable : Shape → Bool
  | .record _ _ selfReferencing _ => !selfReferencing
  | _ => false

mutual

/-- The columns of a member, before their names are made different. -/
def ofMember (outer : Option String) (depth : Int) (info : MemberInfo) : Shape → List Column
  | .record i members selfReferencing exception =>
    if !selfReferencing && depth > 1 then
      ofMembers (some (nameIn outer info.name)) (depth - 1) members
    else
      [⟨nameIn outer info.name,
        (Shape.record i members selfReferencing exception).type (.ofField info.name)⟩]
  | shape => [⟨nameIn outer info.name, shape.type (.ofField info.name)⟩]

/-- The columns of the members of a record, before their names are made different. -/
def ofMembers (outer : Option String) (depth : Int) : List (Member Shape) → List Column
  | [] => []
  | ⟨info, shape⟩ :: rest => ofMember outer depth info shape ++ ofMembers outer depth rest

end

/-- Gives every column a name that no column before it has; `taken` holds the names used so far. -/
def distinctFrom (taken : List String) : List Column → List Column
  | [] => []
  | c :: rest =>
    let name := Naming.firstFree id taken c.name "-"
    { c with name } :: distinctFrom (name :: taken) rest

/-- The record whose members become columns: the shape itself or the elements of a list. -/
def recordOf : Shape → Shape
  | .list _ element _ => element
  | shape => shape

/-- The columns of a record or of a list of records; any other shape has none. -/
def ofShape (shape : Shape) (depth : Int) : List Column :=
  distinctFrom [] (ofMembers none depth (recordOf shape).members)

end Column

end ServiceShell
