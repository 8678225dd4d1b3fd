import ServiceShell.Pattern.Matcher
import ServiceShell.Settings.Basic
import ServiceShell.Signature.Basic

/-!
# Completion of parameters

A parameter with choices is completed from them. Otherwise its name may tell which live resource it
names: first by the patterns of the settings, then by the well-known names.
-/

namespace ServiceShell.CompletionHint

/-- The well-known compact names, with the resource that each names. -/
def knownResources : List (String × String) :=
  [("bucket", "bucket"), ("bucketname", "bucket"), ("functionname", "function"),
   ("loggroupname", "log-group"), ("queueurl", "queue"), ("queuename", "queue"),
   ("tablename", "table"), ("stackname", "stack"), ("rolename", "role"), ("cluster", "cluster"),
   ("clustername", "cluster"), ("clusteridentifier", "cluster"), ("instanceid", "instance"),
   ("instanceids", "instance"), ("keyid", "key"), ("secretid", "secret"), ("topicarn", "topic"),
   ("dbinstanceidentifier", "db-instance")]

/-- Whether a pattern is found in a member name, in either case; what is no pattern is not found. -/
def isNamedBy (name pattern : String) : Bool :=
  match Pattern.parse pattern with
  | .ok tree => tree.isFoundIn [.ignoreCase] name
  | .error _ => false

/-- The resource that a member name stands for. -/
def resourceOf? (settings : GeneratorSettings) (name : String) : Option String :=
  match settings.completions.find? fun c => isNamedBy name c.1 with
  | some c => some c.2
  | none => knownResources.lookup (Pagination.compact name)

/-- The hint for a parameter of a service. -/
def forParameter (settings : GeneratorSettings) (service name : String) (type : HostType) :
    Option CompletionHint :=
  if type.kind = .choice ∧ type.choices ≠ [] then
    some { kind := .static, choices := type.choices }
  else
    (resourceOf? settings name).map fun resource =>
      { kind := .dynamic, resource := some resource, service := some service }

end ServiceShell.CompletionHint
