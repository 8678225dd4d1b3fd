import ServiceShell.Json.Token

/-!
# Reading JSON

Puts a document together from tokens, one token a step. The state is what may come next and the
lists and objects that are still open. The first token that does not fit is reported; a field that
occurs twice keeps its first place and its last value.
-/

namespace ServiceShell.Json

/-! ## States -/

/-- A list or an object that is still open, its parts in reverse. -/
inductive Frame where
  /-- A list with the items read. -/
  | list (read : List Document)
  /-- An object with the fields read and the name of the field being read. -/
  | object (read : List (Scalar × Document)) (name : String)

/-- What may come next. -/
inductive Phase where
  /-- A value. -/
  | value
  /-- A value, or the end of a list that has just begun. -/
  | firstItem
  /-- A comma, or the end of the innermost list or object. -/
  | separator
  /-- A field name, or the end of an object that has just begun. -/
  | firstName
  /-- A field name. -/
  | name
  /-- The colon behind a field name. -/
  | colon
  /-- Nothing: the document is complete. -/
  | done (document : Document)

/-- The state of reading. -/
structure State where
  /-- What may come next. -/
  phase : Phase
  /-- What is open, innermost first. -/
  stack : List Frame

/-- The state at the start of a text. -/
def State.start : State := ⟨.value, []⟩

/-- The state after a value was completed. -/
def State.deliver (d : Document) : List Frame → State
  | [] => ⟨.done d, []⟩
  | .list read :: stack => ⟨.separator, .list (d :: read) :: stack⟩
  | .object read name :: stack => ⟨.separator, .object ((.text name, d) :: read) name :: stack⟩

/-- The document of an open list or object when it is closed. -/
def Frame.close : Frame → Document
  | .list read => .list read.reverse
  | .object read _ => .object (Fields.ofEntries read.reverse)

/-! ## Steps -/

/-- What is missing where a phase does not find what it needs. -/
def Phase.complaint : Phase → Problem
  | .value => .expectedValue
  | .firstItem => .expectedValue
  | .separator => .expectedComma
  | .firstName => .expectedName
  | .name => .expectedName
  | .colon => .expectedColon
  | .done _ => .extraData

/-- Why reading stops. -/
inductive Refusal where
  /-- A problem at an offset. -/
  | problem (problem : Problem) (offset : Nat)
  /-- An integer with too many digits. -/
  | tooManyDigits (count : Nat)

/-- The start of a value, where a value may stand. -/
def State.beginValue (s : State) (token : Token) (offset : Nat) : Except Refusal State :=
  match token with
  | .openList => .ok ⟨.firstItem, .list [] :: s.stack⟩
  | .openObject => .ok ⟨.firstName, .object [] "" :: s.stack⟩
  | .text value => .ok (State.deliver (.text value) s.stack)
  | .scalar value => .ok (State.deliver (.scalar value) s.stack)
  | .badText problem distance => .error (.problem problem (offset + distance))
  | .hugeInteger digits => .error (.tooManyDigits digits)
  | _ => .error (.problem s.phase.complaint offset)

/-- A field name, where one may stand. -/
def State.beginField (s : State) (token : Token) (offset : Nat) : Except Refusal State :=
  match token, s.stack with
  | .text name, .object read _ :: stack => .ok ⟨.colon, .object read name :: stack⟩
  | .badText problem distance, _ => .error (.problem problem (offset + distance))
  | _, _ => .error (.problem s.phase.complaint offset)

/-- The state after one more token. -/
def State.step (s : State) (token : Token) (offset : Nat) : Except Refusal State :=
  match s.phase, token, s.stack with
  | .value, token, _ => s.beginValue token offset
  | .firstItem, .closeList, frame :: stack => .ok (State.deliver frame.close stack)
  | .firstItem, token, _ => s.beginValue token offset
  | .separator, .comma, .list read :: stack => .ok ⟨.value, .list read :: stack⟩
  | .separator, .comma, .object read name :: stack => .ok ⟨.name, .object read name :: stack⟩
  | .separator, .closeList, .list read :: stack =>
    .ok (State.deliver (Frame.list read).close stack)
  | .separator, .closeObject, .object read name :: stack =>
    .ok (State.deliver (Frame.object read name).close stack)
  | .firstName, .closeObject, frame :: stack => .ok (State.deliver frame.close stack)
  | .firstName, token, _ => s.beginField token offset
  | .name, token, _ => s.beginField token offset
  | .colon, .colon, stack => .ok ⟨.value, stack⟩
  | phase, _, _ => .error (.problem phase.complaint offset)

/-- Reads the tokens that are left; `length` is the offset of the end of the text. -/
def State.run (length : Nat) (s : State) : List (Token × Nat) → Except Refusal Document
  | [] =>
    match s.phase with
    | .done d => .ok d
    | phase => .error (.problem phase.complaint length)
  | (token, offset) :: r =>
    match s.step token offset with
    | .ok s => s.run length r
    | .error refusal => .error refusal

/-! ## Texts -/

/-- The error for a refusal. -/
def Refusal.toError (cs : List Char) : Refusal → Error
  | .problem what offset => .invalid what (Place.ofOffset cs offset)
  | .tooManyDigits count => .tooManyDigits count

/-- Reads a JSON document. -/
def parse (text : String) : Except Error Document :=
  let cs := text.toList
  if cs.head? = some '\uFEFF' then .error (.invalid .byteOrderMark (Place.ofOffset cs 0))
  else
    match State.start.run cs.length (tokens cs) with
    | .ok d => .ok d
    | .error refusal => .error (refusal.toError cs)

end ServiceShell.Json
