import ServiceShell.Document.Literal
import ServiceShell.Record.Failure
import ServiceShell.Shape.Fallback
import ServiceShell.Text.Utf8

/-!
# Resolution of shapes

A model describes its types in a table of named definitions that refer to each other by name.
Resolution follows the references from one name and builds the tree of shapes.

The names of the records, lists and maps around a place form its path. A name on the path is not
followed; it becomes an `any` that refers back, and the shape it refers to is marked. So a path
holds each name of the table at most once, and resolution ends. Definitions that make no sense
become `any` with a reason.

The only thing that resolution refuses is a member whose location is no text.

Current gaps:

- Definitions may be followed to any depth; there is no stack that could be used up.
- The labels of a choice and the names of members are spelled also when they are integers of more
  than 4300 digits, which only a document that is not JSON can hold.
-/

namespace ServiceShell

open Record

/-! ## Attributes of definitions -/

/-- The types of primitive values. -/
def scalarTypes : List String :=
  ["string", "integer", "long", "short", "byte", "float", "double", "boolean", "timestamp", "blob"]

/-- The text of a field, empty when it holds something else. -/
def textOrEmpty (d : Document) : String := d.text?.getD ""

/-- The constraints of a definition. -/
def Constraints.ofDefinition (definition : Document) : Constraints :=
  { min := (definition.getD "min").number?
    max := (definition.getD "max").number?
    pattern := (definition.getD "pattern").text?
    choices := (definition.getD "enum").items?.map fun items => items.map Document.spelling }

/-- The attributes of a definition with a name. -/
def ShapeInfo.ofDefinition (name : String) (definition : Document) : ShapeInfo :=
  { name := some name
    documentation := textOrEmpty (definition.getD "documentation")
    constraints := .ofDefinition definition }

/-! ## Attributes of members -/

/-- The text of a field that may be missing; anything but a text and the bytes of one is an
issue. -/
def optionalText (d : Document) (key : String) (path : String) :
    Option String × List Issue :=
  match d.getD key with
  | .text s => (some s, [])
  | .null => (none, [])
  | .scalar (.bytes b) =>
    match Text.decode ⟨b.toArray⟩ with
    | .ok s => (some s, [])
    | .error _ => (none, [⟨[path], .notUnicode⟩])
  | _ => (none, [⟨[path], .notText⟩])

/-- The attributes of the member with a name, given its reference. -/
def MemberInfo.ofReference (name : Scalar) (isRequired : Bool) (reference : Document) :
    Except Failure MemberInfo :=
  let (location, issues) := optionalText reference "location" "location"
  let (locationName, nameIssues) := optionalText reference "locationName" "location_name"
  match issues ++ nameIssues with
  | [] => .ok
      { name := name.spelling
        required := isRequired
        documentation := textOrEmpty (reference.getD "documentation")
        deprecated := (reference.getD "deprecated").isTruthy
        deprecationMessage := (reference.getD "deprecatedMessage").text?
        location, locationName }
  | issue :: more => .error ⟨"ShapeMember", issue :: more⟩

/-- The names that a definition requires. -/
def requiredNames (definition : Document) : List String :=
  ((definition.getD "required").items?.getD []).filterMap Document.text?

/-- Whether a definition requires a member. -/
def isRequired (definition : Document) (member : Scalar) : Bool :=
  match member with
  | .text name => (requiredNames definition).contains name
  | _ => false

/-! ## Trees -/

/-- A resolved shape with the names on its path that it refers back to. -/
structure Resolution where
  /-- The tree. -/
  shape : Shape
  /-- The names on the path that leaves of the tree refer back to. -/
  refersTo : List String

/-- A resolution that refers back to nothing. -/
def Resolution.leaf (shape : Shape) : Resolution := ⟨shape, []⟩

/-- Closes a shape over its own name: it no longer counts as a reference back. -/
def closeOver (name : String) (refersTo : List String) : List String :=
  refersTo.filter (· ≠ name)

/-- Resolves what a reference names, with `resolve` for names. A reference is a name or an object
that holds one. -/
def followReference (resolve : Document → Except Failure Resolution) (reference : Document) :
    Except Failure Resolution :=
  match reference with
  | .object fields => resolve ((Fields.get? "shape" fields).getD .null)
  | .text name => resolve (.text name)
  | _ => .ok (.leaf (Fallback.malformedReference.shape {}))

/-- Resolves the members of a record in declared order. -/
def resolveMembers (resolve : Document → Except Failure Resolution) (definition : Document) :
    List (Scalar × Document) → Except Failure (List (Member Shape) × List String)
  | [] => .ok ([], [])
  | (name, reference) :: rest => do
    let child ← followReference resolve reference
    let info ← MemberInfo.ofReference name (isRequired definition name) reference
    let (members, refersTo) ← resolveMembers resolve definition rest
    return (⟨info, child.shape⟩ :: members, child.refersTo ++ refersTo)

/-- What a definition that can be expanded is. -/
inductive Container where
  /-- A record. -/
  | record
  /-- A list. -/
  | list
  /-- A map. -/
  | map
  deriving DecidableEq

/-- The word for a type that can be expanded. -/
def Container.ofType? : String → Option Container
  | "structure" => some .record
  | "list" => some .list
  | "map" => some .map
  | _ => none

/-- What a definition comes to before anything below it is looked at: a leaf, or a container to
expand. -/
def classify (name : String) (definition : Document) (depth : Nat) (limit : Option Int) :
    Shape ⊕ Container :=
  let info := ShapeInfo.ofDefinition name definition
  match (definition.getD "type").text? with
  | none | some "" => .inl ((Fallback.untyped name).shape info)
  | some type =>
    if (definition.getD "union").isTruthy then .inl ((Fallback.union name).shape info)
    else if scalarTypes.contains type then
      match type, info.constraints.choices with
      | "string", some (choice :: choices) => .inl (.choice info (choice :: choices))
      | _, _ => .inl (.scalar info type)
    else
      match Container.ofType? type with
      | none => .inl ((Fallback.unsupported type).shape info)
      | some container =>
        match limit with
        | some limit =>
          if limit ≤ depth then .inl ((Fallback.tooDeep limit name).shape info)
          else .inr container
        | none => .inr container

/-- The members of a definition: none when they are missing, and nothing when they are no object. -/
def memberFields? (definition : Document) : Option Fields :=
  match definition.getD "members" with
  | .null => some []
  | members => members.fields?

/-- Expands a container with `resolve` for the names below it. -/
def expand (resolve : Document → Except Failure Resolution) (name : String)
    (definition : Document) : Container → Except Failure Resolution
  | .record => do
    let info := ShapeInfo.ofDefinition name definition
    match memberFields? definition with
    | some fields =>
      let (members, refersTo) ← resolveMembers resolve definition fields
      return ⟨.record info members (refersTo.contains name) (definition.getD "exception").isTruthy,
        closeOver name refersTo⟩
    | none => return .leaf ((Fallback.malformedMembers name).shape info)
  | .list => do
    let info := ShapeInfo.ofDefinition name definition
    let element ← followReference resolve (definition.getD "member")
    return ⟨.list info element.shape (element.refersTo.contains name),
      closeOver name element.refersTo⟩
  | .map => do
    let info := ShapeInfo.ofDefinition name definition
    let key ← followReference resolve (definition.getD "key")
    let value ← followReference resolve (definition.getD "value")
    let refersTo := key.refersTo ++ value.refersTo
    return ⟨.map info key.shape value.shape (refersTo.contains name), closeOver name refersTo⟩

/-! ## Termination -/

/-- Whether the name of an entry is not on a path. -/
def isUnvisited (path : List String) (entry : Scalar × Document) : Bool :=
  match entry.1 with
  | .text name => !path.contains name
  | _ => false

/-- The number of entries of a table whose names are not on a path. -/
def unvisited (table : Fields) (path : List String) : Nat := table.countP (isUnvisited path)

/-- A longer path leaves no more names to visit. -/
theorem unvisited_cons_le (table : Fields) (path : List String) (name : String) :
    unvisited table (name :: path) ≤ unvisited table path := by
  unfold unvisited
  apply List.countP_mono_left
  intro entry _ h
  unfold isUnvisited at h ⊢
  cases hk : entry.1 <;> simp_all

/-- Following a name of the table that is not on the path leaves fewer names to visit. -/
theorem unvisited_cons_lt {table : Fields} {path : List String} {name : String}
    {definition : Document} (hpath : name ∉ path)
    (hget : Fields.get? name table = some definition) :
    unvisited table (name :: path) < unvisited table path := by
  induction table with
  | nil => simp at hget
  | cons entry rest ih =>
    obtain ⟨key, value⟩ := entry
    have mono := unvisited_cons_le rest path name
    simp only [unvisited, List.countP_cons] at ih mono ⊢
    by_cases hk : key = .text name
    · subst hk
      simp [isUnvisited, hpath] at mono ⊢
      omega
    · have hrest := ih (by simpa [Fields.get?, hk] using hget)
      have hkey : isUnvisited (name :: path) (key, value) = isUnvisited path (key, value) := by
        unfold isUnvisited
        cases key <;> simp_all
      rw [hkey]
      omega

/-! ## Resolution -/

/-- Resolves a name at a depth, below the shapes on `path`. -/
def resolveAt (table : Fields) (limit : Option Int) (path : List String) (depth : Nat)
    (name : Document) : Except Failure Resolution :=
  match name with
  | .text name =>
    if name = "" then .ok (.leaf (Fallback.missingReference.shape {}))
    else if hpath : name ∈ path then
      .ok ⟨(Fallback.cycle name).shape { name := some name }, [name]⟩
    else
      match hget : Fields.get? name table with
      | some (.object fields) =>
        match classify name (.object fields) depth limit with
        | .inl shape => .ok (.leaf shape)
        | .inr container =>
          have := unvisited_cons_lt hpath hget
          expand (resolveAt table limit (name :: path) (depth + 1)) name (.object fields) container
      | _ => .ok (.leaf ((Fallback.undefined name).shape { name := some name }))
  | _ => .ok (.leaf (Fallback.missingReference.shape {}))
termination_by unvisited table path

/-- Resolves a name against a table of definitions. Containers deeper than `limit` become `any`. -/
def Shape.resolve (table : Fields) (limit : Option Int) (name : Document) :
    Except Failure Shape :=
  (resolveAt table limit [] 0 name).map Resolution.shape

end ServiceShell
