import ServiceShell.Module
import ServiceShell.Workspace.Basic

/-!
# Modules in files

A module is written to a file that is named for its service.
-/

namespace ServiceShell

/-- The path of the file for the module of a service in a directory. -/
def modulePath (directory : Path) (service : String) : Path := directory.child (service ++ ".nu")

/-- Sees to it that the definitions of some commands can be made: their messages on deprecation have
to be read for it. -/
def Job.readMessages (signatures : List Signature) : Job Unit :=
  ofResult <|
    match Signature.overlong? signatures with
    | none => .ok ()
    | some count => .error (.unexpected (.digits count))

/-- Writes the module with some signatures, and tells where. -/
def Job.writeModule (settings : GeneratorSettings) (service : String) (signatures : List Signature)
    (directory : Path) : Job Path := do
  let path := modulePath directory service
  readMessages signatures
  writeText path (Module.render settings service none signatures)
  return path

end ServiceShell
