import ServiceShell.Yaml.Implicit
import ServiceShell.Yaml.Tokens

/-!
# The tree of a YAML text

Puts the tokens of a text together to a tree of scalars, sequences and mappings. References to named
nodes are replaced by the nodes; inside the node that it names, a reference stands for a collection
that only tells that it encloses its place. A text holds one document or none.
-/

namespace ServiceShell.Yaml

/-! ## Nodes -/

/-- A node of the tree. -/
inductive Node where
  /-- A scalar. -/
  | scalar (tag : Tag) (text : String)
  /-- A sequence. -/
  | sequence (tag : Tag) (items : List Node)
  /-- A mapping. -/
  | mapping (tag : Tag) (entries : List (Node × Node))

/-- The scalar of a text left out. -/
def Node.empty : Node := .scalar .null ""

/-! ## State -/

/-- What is known while the tree is put together. -/
structure Parse where
  /-- The tokens that are left. -/
  tokens : List Token
  /-- The problem behind the tokens. -/
  trouble : Refusal
  /-- What the handles of tags stand for. -/
  handles : List (String × String)
  /-- The named nodes; those not complete yet are empty, with a tag that tells so. -/
  anchors : List (String × Node)

/-- A part of a tree, read from tokens. -/
abbrev Parser := StateT Parse (Except Refusal)

namespace Parser

/-- The next token. -/
def peek : Parser Token := do
  let s ← get
  match s.tokens with
  | token :: _ => return token
  | [] => throw s.trouble

/-- Takes the next token. -/
def take : Parser Unit := modify fun s => { s with tokens := s.tokens.drop 1 }

/-- Refuses the text. -/
def refuse {α : Type} (reason : String) : Parser α := throw (.malformed reason)

/-! ## Properties of nodes -/

/-- The name and the tag before a node. -/
structure Properties where
  /-- The name. -/
  anchor : Option String := none
  /-- The tag. -/
  tag : Option RawTag := none

/-- Reads a name, if there is one. -/
def anchor? : Parser (Option String) := do
  match ← peek with
  | .anchor name => take; return some name
  | _ => return none

/-- Reads a tag, if there is one. -/
def tag? : Parser (Option RawTag) := do
  match ← peek with
  | .tag tag => take; return some tag
  | _ => return none

/-- Reads the name and the tag before a node, in either order. -/
def properties : Parser Properties := do
  match ← anchor? with
  | some name => return { anchor := some name, tag := ← tag? }
  | none =>
    match ← tag? with
    | some tag => return { anchor := ← anchor?, tag := some tag }
    | none => return {}

/-- The full name of a tag. -/
def tagName (tag : RawTag) : Parser String := do
  match tag.handle with
  | none => return tag.suffix
  | some handle =>
    match (← get).handles.lookup handle with
    | some tagPrefix => return tagPrefix ++ tag.suffix
    | none => refuse "found undefined tag handle"

/-- The tag in the properties of a node; the mark alone leaves it open. -/
def explicitTag (p : Properties) : Parser (Option String) :=
  match p.tag with
  | some tag => some <$> tagName tag
  | none => return none

/-- Names a node. -/
def define (anchor : Option String) (node : Node) : Parser Unit :=
  match anchor with
  | some name => modify fun s => { s with anchors := (name, node) :: s.anchors }
  | none => return

/-- Checks that a name is new. -/
def checkNew (anchor : Option String) : Parser Unit := do
  match anchor with
  | some name =>
    if ((← get).anchors.lookup name).isSome then refuse "found duplicate anchor"
  | none => return

/-- The node that a reference names. -/
def resolve (name : String) : Parser Node := do
  match (← get).anchors.lookup name with
  | some node => return node
  | none => refuse "found undefined alias"

/-- The tag of a collection. -/
def collectionTag (tag : Option String) (default : Tag) : Tag :=
  match tag with
  | none | some "!" => default
  | some name => .ofName name

/-- The tag of a scalar: a plain text shows its kind by its form. -/
def scalarTag (tag : Option String) (text : String) (isPlain : Bool) : Tag :=
  match tag with
  | some "!" => plainTag text
  | some name => .ofName name
  | none => if isPlain then plainTag text else .text

/-! ## Trees -/

/-- Where a node stands, which tells which collections it may be. -/
inductive Place where
  /-- In brackets or braces. -/
  | flow
  /-- Outside of them. -/
  | block
  /-- In a mapping outside of them, where items need no indentation. -/
  | value
  deriving DecidableEq

/-- Whether nothing stands for a node before a token. -/
def isLeftOut (ends : List Token) (token : Token) : Bool := ends.contains token

mutual

/-- Reads a node. -/
def node (place : Place) : Nat → Parser Node
  | 0 => refuse "the text is too deep"
  | fuel + 1 => do
    if let .alias name ← peek then
      take
      return ← resolve name
    let p ← properties
    let tag ← explicitTag p
    checkNew p.anchor
    let sequence (items : Parser (List Node)) : Parser Node := do
      define p.anchor (.sequence .enclosing [])
      return .sequence (collectionTag tag .sequence) (← items)
    let mapping (entries : Parser (List (Node × Node))) : Parser Node := do
      define p.anchor (.mapping .enclosing [])
      return .mapping (collectionTag tag .mapping) (← entries)
    let node ← match ← peek, place with
      | .blockEntry, .value => sequence (bareItems fuel)
      | .scalar text isPlain, _ => do
        take
        pure (Node.scalar (scalarTag tag text isPlain) text)
      | .flowSequenceStart, _ => do take; sequence (flowItems fuel true)
      | .flowMappingStart, _ => do take; mapping (flowEntries fuel true)
      | .blockSequenceStart, .block | .blockSequenceStart, .value => do
        take
        sequence (blockItems fuel)
      | .blockMappingStart, .block | .blockMappingStart, .value => do
        take
        mapping (blockEntries fuel)
      | _, _ =>
        if p.anchor.isSome || p.tag.isSome then
          pure (Node.scalar (scalarTag tag "" true) "")
        else refuse "expected the node content"
    define p.anchor node
    return node

/-- Reads a node, unless nothing stands for it. -/
def nodeOrEmpty (place : Place) (ends : List Token) : Nat → Parser Node
  | 0 => refuse "the text is too deep"
  | fuel + 1 => do
    if isLeftOut ends (← peek) then return .empty else node place fuel

/-- Reads the items of a sequence by indentation. -/
def blockItems : Nat → Parser (List Node)
  | 0 => refuse "the text is too deep"
  | fuel + 1 => do
    match ← peek with
    | .blockEntry =>
      take
      let item ← nodeOrEmpty .block [.blockEntry, .blockEnd] fuel
      return item :: (← blockItems fuel)
    | .blockEnd => take; return []
    | _ => refuse "while parsing a block collection"

/-- Reads the items of a sequence without an indentation of its own. -/
def bareItems : Nat → Parser (List Node)
  | 0 => refuse "the text is too deep"
  | fuel + 1 => do
    match ← peek with
    | .blockEntry =>
      take
      let item ← nodeOrEmpty .block [.blockEntry, .key, .value, .blockEnd] fuel
      return item :: (← bareItems fuel)
    | _ => return []

/-- Reads the value behind a key, if there is one. -/
def valueOrEmpty (place : Place) (ends : List Token) : Nat → Parser Node
  | 0 => refuse "the text is too deep"
  | fuel + 1 => do
    match ← peek with
    | .value => take; nodeOrEmpty place ends fuel
    | _ => return .empty

/-- Reads the entries of a mapping by indentation. -/
def blockEntries : Nat → Parser (List (Node × Node))
  | 0 => refuse "the text is too deep"
  | fuel + 1 => do
    match ← peek with
    | .key =>
      take
      let key ← nodeOrEmpty .value [.key, .value, .blockEnd] fuel
      let value ← valueOrEmpty .value [.key, .value, .blockEnd] fuel
      return (key, value) :: (← blockEntries fuel)
    | .blockEnd => take; return []
    | _ => refuse "while parsing a block mapping"

/-- Reads the items of a sequence in brackets. -/
def flowItems : Nat → Bool → Parser (List Node)
  | 0, _ => refuse "the text is too deep"
  | fuel + 1, isFirst => do
    if (← peek) = .flowSequenceEnd then
      take
      return []
    unless isFirst do
      if (← peek) = .flowEntry then take else refuse "expected ',' or ']'"
    match ← peek with
    | .flowSequenceEnd => take; return []
    | .key =>
      take
      let key ← nodeOrEmpty .flow [.value, .flowEntry, .flowSequenceEnd] fuel
      let value ← valueOrEmpty .flow [.flowEntry, .flowSequenceEnd] fuel
      return .mapping .mapping [(key, value)] :: (← flowItems fuel false)
    | _ =>
      let item ← node .flow fuel
      return item :: (← flowItems fuel false)

/-- Reads the entries of a mapping in braces. -/
def flowEntries : Nat → Bool → Parser (List (Node × Node))
  | 0, _ => refuse "the text is too deep"
  | fuel + 1, isFirst => do
    if (← peek) = .flowMappingEnd then
      take
      return []
    unless isFirst do
      if (← peek) = .flowEntry then take else refuse "expected ',' or a closing brace"
    match ← peek with
    | .flowMappingEnd => take; return []
    | .key =>
      take
      let key ← nodeOrEmpty .flow [.value, .flowEntry, .flowMappingEnd] fuel
      let value ← valueOrEmpty .flow [.flowEntry, .flowMappingEnd] fuel
      return (key, value) :: (← flowEntries fuel false)
    | _ =>
      let key ← node .flow fuel
      return (key, .empty) :: (← flowEntries fuel false)

end

/-! ## Documents -/

/-- What the handles stand for when no directive tells it. -/
def defaultHandles : List (String × String) := [("!", "!"), ("!!", commonPrefix)]

/-- Reads the directives before a document; `version` tells whether there was a version. -/
def directives : Nat → Bool → List (String × String) → Parser (List (String × String))
  | 0, _, _ => refuse "the text is too long"
  | fuel + 1, hasVersion, handles => do
    match ← peek with
    | .directive (.version major _) =>
      take
      if hasVersion then refuse "found duplicate YAML directive"
      else if major ≠ 1 then refuse "found incompatible YAML document (version 1.* is required)"
      else directives fuel true handles
    | .directive (.tag handle tagPrefix) =>
      take
      if (handles.lookup handle).isSome then refuse "found duplicate tag handle"
      else directives fuel hasVersion ((handle, tagPrefix) :: handles)
    | .directive .other => take; directives fuel hasVersion handles
    | _ => return handles

/-- Takes the marks for the end of a document. -/
def skipEnds : Nat → Parser Unit
  | 0 => return
  | fuel + 1 => do
    match ← peek with
    | .documentEnd => take; skipEnds fuel
    | _ => return

/-- Reads a document that begins with its mark. -/
def explicitDocument (fuel : Nat) : Parser Node := do
  let handles ← directives fuel false []
  modify fun s => { s with handles := handles ++ defaultHandles }
  match ← peek with
  | .documentStart =>
    take
    match ← peek with
    | .directive _ | .documentStart | .documentEnd | .streamEnd => return .empty
    | _ => node .block fuel
  | _ => refuse "expected '<document start>'"

/-- Reads the only document of a text, if there is one. -/
def single (fuel : Nat) : Parser (Option Node) := do
  let document ← match ← peek with
    | .streamEnd => return none
    | .directive _ | .documentStart => explicitDocument fuel
    | _ => node .block fuel
  skipEnds fuel
  match ← peek with
  | .streamEnd => return some document
  | _ => refuse "expected a single document in the stream"

end Parser

/-- The tree of a text, if it holds a document. -/
def Node.ofText (text : String) : Except Refusal (Option Node) :=
  let (tokens, trouble) := tokens text
  let start : Parse :=
    { tokens
      trouble := trouble.getD (.malformed "found the end of the text")
      handles := Parser.defaultHandles
      anchors := [] }
  ((Parser.single (4 * tokens.length + 8)).run start).map (·.1)

end ServiceShell.Yaml
