import ServiceShell.Service.Operation

/-!
# Resources

Operations that do the usual things to one kind of object belong together: `ListFunctions`,
`GetFunction` and `DeleteFunction` work on the resource `function`. The resource is the noun behind
the verb of the operation, in the singular.
-/

namespace ServiceShell

/-- Operations on one kind of object. -/
structure Resource where
  /-- The noun. -/
  name : String
  /-- The names of the operations in the model, in its order. -/
  operations : List String := []
  deriving DecidableEq, Inhabited

namespace Resource

/-! ## Nouns -/

/-- The verbs that a noun is recognised behind. -/
def verbs : List String := ["list", "create", "describe", "update", "delete", "get"]

/-- Whether a word ends in one of some endings. -/
def endsIn (word : List Char) (endings : List String) : Bool :=
  endings.any fun e => e.toList.isSuffixOf word

/-- A word without its last `n` letters. -/
def dropEnd (n : Nat) (word : List Char) : List Char := word.take (word.length - n)

/-- The singular of an English word, by its ending. -/
def singular (word : List Char) : List Char :=
  if word.length > 3 && endsIn word ["ies"] then dropEnd 3 word ++ ['y']
  else if endsIn word ["sses"] then dropEnd 2 word
  else if endsIn word ["ches", "shes", "xes", "zes"] then dropEnd 2 word
  else if endsIn word ["s"] && !endsIn word ["ss", "us", "is"] then dropEnd 1 word
  else word

/-- The singular of an English word. -/
def singularize (word : String) : String := String.ofList (singular word.toList)

/-- The parts of a text between hyphens; there is always one. -/
def hyphenParts : List Char → List (List Char)
  | [] => [[]]
  | c :: r =>
    if c = '-' then [] :: hyphenParts r
    else
      match hyphenParts r with
      | [] => [[c]]
      | part :: parts => (c :: part) :: parts

/-- Applies a function to the last element of a list. -/
def mapLast {α : Type} (f : α → α) : List α → List α
  | [] => []
  | [a] => [f a]
  | a :: b :: r => a :: mapLast f (b :: r)

/-- The noun of a hyphenated operation name, in the singular: what stands behind a known verb. -/
def nounOf (name : List Char) : Option (List Char) :=
  match hyphenParts name with
  | verb :: word :: words =>
    if verbs.contains (String.ofList verb) then
      some (Text.joinWith '-' (mapLast singular (word :: words)))
    else none
  | _ => none

/-- The noun of a hyphenated operation name. -/
def noun? (name : String) : Option String := (nounOf name.toList).map String.ofList

/-! ## Grouping -/

/-- Adds an operation to the resource of a noun; a new noun comes last. -/
def add (noun operation : String) : List Resource → List Resource
  | [] => [⟨noun, [operation]⟩]
  | r :: rest =>
    if r.name = noun then { r with operations := r.operations ++ [operation] } :: rest
    else r :: add noun operation rest

/-- Adds an operation to the resource it works on, if it has a noun. -/
def addOperation (resources : List Resource) (operation : Operation) : List Resource :=
  match noun? operation.name with
  | some noun => add noun operation.modelName resources
  | none => resources

/-- The resources of some operations, in order of first appearance. -/
def ofOperations (operations : List Operation) : List Resource :=
  operations.foldl addOperation []

end Resource

end ServiceShell
