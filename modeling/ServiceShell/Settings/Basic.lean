/-!
# Settings

What a user can choose: how commands are generated, where files go, and how output looks. Every
setting has a default.
-/

namespace ServiceShell

/-- The settings for the generation of commands. -/
structure GeneratorSettings where
  /-- The first word of every command. -/
  commandPrefix : String := "aws"
  /-- How deep shapes are resolved; without limit when there is none. -/
  maxDepth : Option Int := some 16
  /-- How many workers make signatures. -/
  workers : Int := 1
  /-- The command that generated bodies call. -/
  dispatcher : String := "aws-dispatch"
  /-- Whether an output with one list of data is returned as that list. -/
  unwrapListOutputs : Bool := true
  /-- Patterns for parameter names, each with the resource that completes them. -/
  completions : List (String × String) := []
  deriving DecidableEq, Inhabited

/-- All settings. -/
structure Settings where
  /-- The directory for generated files. -/
  outputDir : Option String := none
  /-- The settings for generation. -/
  generator : GeneratorSettings := {}
  /-- The word for the output format. -/
  format : String := "auto"
  deriving DecidableEq, Inhabited

end ServiceShell
