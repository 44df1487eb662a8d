import ApiDiscovery.Discovery.Document
import ApiDiscovery.Discovery.Resource

/-!
# Services

A service has a base address, parameters shared by all its methods, and resources. Its methods are
looked up by the dotted path of a resource and a name, and listed in document order.
-/

namespace ApiDiscovery.Discovery

/-- A service as a document describes it. -/
structure Service where
  name : String
  version : String
  baseUri : Json
  resources : Ordered Resource
  parameters : Ordered Parameter := []
  title : Json := .str ""
  description : Json := .str ""

namespace Service

/-- The root address and the path of the service joined; texts, arrays and numbers can be, but no
double is added to an integer beyond the doubles. -/
def joined (root path : Json) : Except Fault Json :=
  match root, path with
  | .str a, .str b => .ok (.str (a ++ b))
  | .arr xs, .arr ys => .ok (.arr (xs ++ ys))
  | _, _ =>
    match Json.sum? root path with
    | some (.double total) =>
      if root.isBeyondDoubles || path.isBeyondDoubles then .error .beyondDoubles
      else .ok (.double total)
    | some total => .ok total
    | none => .error .shape

/-- The base address of the service a document describes. -/
def baseUriOf (document : Document) : Except Fault Json := do
  let base ←
    match Json.lookup "rootUrl" document.body with
    | some root => joined root (Json.getOr document.body "servicePath" (.str ""))
    | none => .ok (Json.getOr document.body "baseUrl" .null)
  if base.isGiven then return base else .error (.noBaseUrl document.name)

/-- The service that a value describes. -/
def ofJson (value : Json) : Except Fault Service := do
  let document ← Document.ofJson value
  let baseUri ← baseUriOf document
  let shared ← Parameter.allOfJson (← Json.objectAt document.body "parameters")
  let resources ← Resource.nested shared document.body
  return {
    name := document.name
    version := document.version
    baseUri := baseUri
    resources := resources
    parameters := shared
    title := Json.getOr document.body "title" (.str "")
    description := Json.getOr document.body "description" (.str "") }

/-- The resource at a dotted path. -/
def resource (s : Service) (path : String) : Except Fault Resource :=
  match Resource.find? (Text.splitAt '.' path) s.resources with
  | some resource => .ok resource
  | none => .error (.noResource s.name path)

/-- The method with this name of the resource at a dotted path. -/
def method (s : Service) (resource name : String) : Except Fault Method := do
  let found ← s.resource resource
  match Ordered.get? found.methods name with
  | some method => .ok method
  | none => .error (.noMethod s.name resource name)

/-- All methods with the paths of their resources. -/
def methods (s : Service) : List (String × Method) := Resource.allMethodsBelow "" s.resources

end Service
end ApiDiscovery.Discovery
