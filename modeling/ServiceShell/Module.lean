import ServiceShell.Program
import ServiceShell.Settings.Basic
import ServiceShell.Signature.Rendering

/-!
# Modules

The source file of a service: a header, the commands that complete live resources, and the
definitions of all commands.
-/

namespace ServiceShell.Module

open Signature

/-! ## Completers -/

/-- A command that completes a live resource. -/
structure Completer where
  /-- The name of the command. -/
  command : String
  /-- The resource. -/
  resource : String
  deriving DecidableEq

/-- The completer that a parameter asks for, if it names a resource. -/
def completer? (commandPrefix service : String) (p : Parameter) : Option Completer :=
  match p.completion with
  | some { kind := .dynamic, resource := some resource, service := owner, .. } =>
    if resource = "" then none
    else some ⟨completerName commandPrefix (orElse owner service) resource, resource⟩
  | _ => none

/-- Adds a completer unless one with its command is there. -/
def addCompleter (completers : List Completer) (c : Completer) : List Completer :=
  if completers.any (·.command = c.command) then completers else completers ++ [c]

/-- The completers that signatures ask for, in order of first use. -/
def completers (commandPrefix service : String) (signatures : List Signature) : List Completer :=
  (signatures.flatMap fun s => s.parameters.filterMap (completer? commandPrefix service)).foldl
    addCompleter []

/-- The definition of a completer. -/
def completerText (dispatcher service : String) (c : Completer) : String :=
  "def " ++ String.ofList (Text.shieldMarkup (quote c.command).toList) ++ " [] \x7b\n    "
    ++ dispatcher ++ " --complete " ++ service ++ " " ++ c.resource ++ "\n\x7d\n"

/-! ## Modules -/

/-- The lines at the start of a module. -/
def header (title service : String) : String :=
  "# " ++ title ++ "\n#\n# Generated by " ++ Program.name ++ " " ++ Program.version
    ++ " from the " ++ service ++ " service model.\n# Do not edit by hand; regenerate with `"
    ++ Program.name ++ " generate`.\n"

/-- The section of the completers; none without one. -/
def completerSection (dispatcher service : String) (completers : List Completer) : String :=
  if completers.isEmpty then ""
  else
    "\n# Live-resource completers. The dispatcher performs the lookup.\n"
      ++ String.join (completers.map (completerText dispatcher service))

/-- The title of a module when no other is given. -/
def defaultTitle (commandPrefix service : String) : String :=
  commandPrefix ++ " " ++ service ++ " commands"

/-- The text of a module. -/
def render (settings : GeneratorSettings) (service : String) (title : Option String)
    (signatures : List Signature) : String :=
  header (orElse title (defaultTitle settings.commandPrefix service)) service
    ++ completerSection settings.dispatcher service
      (completers settings.commandPrefix service signatures)
    ++ String.join (signatures.map fun s => "\n" ++ s.render settings.dispatcher ++ "\n")

end ServiceShell.Module
