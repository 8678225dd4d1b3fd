import ServiceShell.Pattern.Parser
import ServiceShell.Record.Encode
import ServiceShell.Record.Scalar
import ServiceShell.Settings.Basic

/-!
# Records of settings

The document form of settings, and how it is read and checked. The patterns for completions have to
be patterns.
-/

namespace ServiceShell

open Document Record

/-! ## Patterns -/

/-- Why a text is refused as a pattern. -/
def refusedPattern (source : String) : Pattern.Complaint → Cause
  | .problem reason offset =>
    .refused ("invalid completion pattern " ++ textLiteral source ++ ": "
      ++ Pattern.problemMessage source reason offset)
  | .tooManyRepetitions => .unchecked .numberRange
  | .tooManyDigits count => .refused (Json.Error.tooManyDigits count).message
  | .conflictingModes => .refused "ASCII and UNICODE flags are incompatible"
  | .tooWide => .unchecked .width

/-- Why a text cannot be the key of a completion, if it cannot. -/
def patternCause? (source : String) : Option Cause :=
  match Pattern.parse source with
  | .ok _ => none
  | .error refusal => some (refusedPattern source refusal.complaint)

/-- Checks that the keys of completions are patterns; the first that is none is told. -/
def checkPatterns (completions : List (String × String)) : Reading (List (String × String)) :=
  match completions.findSome? fun c => patternCause? c.1 with
  | some cause => .refuse cause
  | none => .read completions

/-! ## Settings for generation -/

/-- The record of the settings for generation. -/
def GeneratorSettings.encode (s : GeneratorSettings) : Document :=
  ofPairs [
    ("command_prefix", .text s.commandPrefix),
    ("max_depth", encodeInt? s.maxDepth),
    ("workers", .int s.workers),
    ("dispatcher", .text s.dispatcher),
    ("unwrap_list_outputs", .bool s.unwrapListOutputs),
    ("dynamic_completions", ofPairs (s.completions.map fun c => (c.1, .text c.2)))]

/-- Reads fields that all hold texts. -/
def readTexts : Fields → Reading (List (String × String))
  | [] => .read []
  | (.text key, d) :: rest =>
    List.cons <$> ((key, ·) <$> Reading.under key (text d)) <*> readTexts rest
  | _ :: _ => .refuse .notText

/-- Reads an object whose fields all hold texts. -/
def texts : Document → Reading (List (String × String))
  | .object fields => readTexts fields
  | _ => .refuse .notObject

/-- Reads the settings for generation. -/
def GeneratorSettings.read : Document → Reading GeneratorSettings :=
  record "GeneratorConfig" fun fields =>
    GeneratorSettings.mk <$> fieldD fields "command_prefix" "aws" text
      <*> fieldD fields "max_depth" (some 16) (optional integer)
      <*> fieldD fields "workers" 1 integer
      <*> fieldD fields "dispatcher" "aws-dispatch" text
      <*> fieldD fields "unwrap_list_outputs" true boolean
      <*> fieldD fields "dynamic_completions" [] fun d => (texts d).bind checkPatterns

/-- The settings for generation that a document holds. -/
def GeneratorSettings.decode (d : Document) : Except Failure GeneratorSettings :=
  (GeneratorSettings.read d).finish "GeneratorConfig"

/-! ## All settings -/

/-- The record of all settings. -/
def Settings.encode (s : Settings) : Document :=
  ofPairs [
    ("output_dir", ofText? s.outputDir),
    ("generator", s.generator.encode),
    ("output", ofPairs [("format", .text s.format)])]

/-- Reads all settings. -/
def Settings.read : Document → Reading Settings :=
  record "GlobalConfig" fun fields =>
    Settings.mk <$> fieldD fields "output_dir" none (optional text)
      <*> fieldD fields "generator" {} GeneratorSettings.read
      <*> fieldD fields "output" "auto"
        (record "OutputConfig" fun output => fieldD output "format" "auto" text)

/-- The settings that a document holds. -/
def Settings.decode (d : Document) : Except Failure Settings :=
  (Settings.read d).finish "GlobalConfig"

end ServiceShell
