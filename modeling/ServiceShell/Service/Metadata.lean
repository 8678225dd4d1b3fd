import ServiceShell.Document.Literal
import ServiceShell.Text.Naming

/-!
# Service metadata

The names and versions that a model gives its service, and the name under which the service appears
on the command line.
-/

namespace ServiceShell

/-- What a model says about its service; what it does not say is empty. -/
structure Metadata where
  /-- The version of the interface. -/
  apiVersion : String := ""
  /-- The wire protocol. -/
  protocol : String := ""
  /-- The full name of the service. -/
  serviceFullName : String := ""
  /-- The host name prefix of its endpoints. -/
  endpointPrefix : String := ""
  /-- The version of the request signature. -/
  signatureVersion : String := ""
  /-- The short name of the service. -/
  serviceId : String := ""
  deriving DecidableEq, Inhabited

namespace Metadata

/-- The plain form of a value that may be missing. -/
def spell (d : Document) : String := if d.isNull then "" else d.spelling

/-- The keys of what a model says about its service. -/
def keys : List String :=
  ["apiVersion", "protocol", "serviceFullName", "endpointPrefix", "signatureVersion", "serviceId"]

/-- Whether a model has metadata that cannot be spelled, for an integer has too many digits. -/
def isOverlong (model : Document) : Bool :=
  keys.any fun key => ((model.getD "metadata").getD key).isOverlong

/-- The metadata of a model, which can be spelled. -/
def ofModel (model : Document) : Metadata :=
  let entry := model.getD "metadata"
  let field (key : String) := spell (entry.getD key)
  { apiVersion := field "apiVersion"
    protocol := field "protocol"
    serviceFullName := field "serviceFullName"
    endpointPrefix := field "endpointPrefix"
    signatureVersion := field "signatureVersion"
    serviceId := field "serviceId" }

/-- The name used when nothing else gives one. -/
def defaultServiceName : String := "service"

/-- The first of some texts whose hyphenated form is not empty, in that form. -/
def firstName? (candidates : List String) : Option String :=
  (candidates.map Naming.kebab).find? (· ≠ "")

/-- The name of the service on the command line: the endpoint prefix, else the service id, else
`fallback`, in hyphenated form. -/
def serviceName (m : Metadata) (fallback : String) : String :=
  (firstName? [m.endpointPrefix, m.serviceId, fallback]).getD defaultServiceName

end Metadata

end ServiceShell
