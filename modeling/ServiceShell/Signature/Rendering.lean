import ServiceShell.Signature.Basic
import ServiceShell.Text.Naming
import ServiceShell.Text.Plain
import ServiceShell.Text.Quoted

/-!
# Signatures as source text

The definition of a command in the host shell. Its body calls the dispatcher with the service, the
operation and a record that holds the parameters under the names of the model.
-/

namespace ServiceShell.Signature

open Text

/-! ## Words -/

/-- A text as a literal of the host shell. -/
def quote (text : String) : String := Alphabet.ascii.quote text

/-- Whether a character can begin a record key without quotes. -/
def isKeyStart (c : Char) : Bool := c.isAlpha || c = '_'

/-- Whether a character can stand in a record key without quotes. -/
def isKeyChar (c : Char) : Bool := c.isAlphanum || c = '_'

/-- Whether the characters behind the first leave a record key without quotes; a line break may end
them. -/
def isBareTail : List Char → Bool
  | [] => true
  | ['\n'] => true
  | c :: r => isKeyChar c && isBareTail r

/-- Whether a record key stands without quotes. -/
def isBareKey : List Char → Bool
  | [] => false
  | c :: r => isKeyStart c && isBareTail r

/-- A record key. -/
def recordKey (name : String) : String := if isBareKey name.toList then name else quote name

/-- The name of the command that completes a resource of a service. -/
def completerName (commandPrefix service resource : String) : String :=
  "nu-complete " ++ commandPrefix ++ " " ++ service ++ " " ++ resource

/-- The comment on what is deprecated. -/
def deprecationText (message : Option String) : String :=
  let text := plain (message.getD "")
  if text = "" then "DEPRECATED" else "DEPRECATED: " ++ text

/-! ## Parameters -/

/-- A parameter without completion and comment. -/
def parameterHead (p : Parameter) : String :=
  if p.rest then "..." ++ p.name ++ ": " ++ p.type.render
  else if p.flag then "--" ++ p.name
  else if p.positional then p.name ++ ": " ++ p.type.render
  else "--" ++ p.name ++ ": " ++ p.type.render

/-- A text unless it is empty. -/
def orElse (text : Option String) (other : String) : String :=
  match text with
  | none | some "" => other
  | some text => text

/-- The completion of a parameter, as it is written behind the type. -/
def completionText (commandPrefix : String) (p : Parameter) : String :=
  match p.completion with
  | none => ""
  | some hint =>
    if p.flag then ""
    else
      match hint.kind with
      | .static => "@[" ++ " ".intercalate (hint.choices.map quote) ++ "]"
      | .dynamic =>
        "@" ++ quote (completerName commandPrefix (hint.service.getD "")
          (orElse hint.resource p.name))

/-- The comment behind a parameter. -/
def parameterComment (p : Parameter) : String :=
  if p.deprecated then "  # " ++ deprecationText p.deprecationMessage
  else if p.documentation = "" then ""
  else "  # " ++ p.documentation

/-- The line of a parameter. -/
def parameterLine (commandPrefix : String) (p : Parameter) : String :=
  "    " ++ parameterHead p ++ completionText commandPrefix p ++ parameterComment p

/-! ## Calls -/

/-- A field of the record that a body passes on. -/
def callField (p : Parameter) : String :=
  recordKey p.modelName ++ ": $" ++ Naming.variableOf p.name

/-- The call in the body of a command. -/
def callLine (dispatcher : String) (s : Signature) : String :=
  let head := "    " ++ dispatcher ++ " " ++ s.service ++ " " ++ s.modelName
  if s.parameters.any Parameter.rest then head ++ " ...$args"
  else head ++ " \x7b" ++ ", ".intercalate (s.parameters.map callField) ++ "\x7d"

/-! ## Definitions -/

/-- The first word of a command. -/
def firstWord (command : String) : String :=
  String.ofList (command.toList.takeWhile (· ≠ ' '))

/-- The lines of the definition of a command. -/
def lines (dispatcher : String) (s : Signature) : List String :=
  (if s.documentation = "" then [] else ["# " ++ s.documentation])
    ++ (if s.deprecated then ["# " ++ deprecationText s.deprecationMessage] else [])
    ++ s.comments.map ("# NOTE: " ++ ·)
    ++ ["export def " ++ quote s.command ++ " ["]
    ++ s.parameters.map (parameterLine (firstWord s.command))
    ++ ["]: nothing -> " ++ s.returnType.render ++ " \x7b"]
    ++ [callLine dispatcher s]
    ++ ["\x7d"]

/-- The dispatcher that is called when nothing else is said. -/
def defaultDispatcher : String := "aws-dispatch"

/-- The definition of a command, whose messages on deprecation can be read. -/
def render (dispatcher : String) (s : Signature) : String :=
  "\n".intercalate (s.lines dispatcher)

/-- The messages on deprecation that the definition of a command shows, in order. -/
def messages (s : Signature) : List String :=
  (if s.deprecated then s.deprecationMessage.toList else [])
    ++ (s.parameters.filter Parameter.deprecated).filterMap Parameter.deprecationMessage

/-- The number of digits of the first reference in the messages of some commands that has too many
of them to be read. -/
def overlong? (signatures : List Signature) : Option Nat :=
  (signatures.flatMap messages).findSome? Text.overlong?

end ServiceShell.Signature
