import ApiDiscovery.Discovery.Tree
import ApiDiscovery.Log
import ApiDiscovery.Source.Decoration

/-!
# Modules

The module for a document has one class for the service and one for each resource, in the order in
which the tree of resources is walked. No two of them share a name.
-/

namespace ApiDiscovery.Source

/-- The module for a document. -/
structure Module where
  name : String
  version : String
  service : Class
  resources : List Class

namespace Module

/-- The name of the file of a module, without its ending. -/
def fileName (m : Module) : String := Naming.moduleName m.name m.version

/-- The number of methods in all classes of resources. -/
def methodCount (m : Module) : Nat := m.resources.foldr (fun c count => c.methods.length + count) 0

/-! ## Classes -/

/-- The arguments of the initialiser of a service class. -/
def serviceInitArgs : String :=
  "authenticator: Authenticator | None = None, client: httpx.Client | None = None, " ++
    "base_uri: str | None = None, return_type: ReturnType = ReturnType.JSON"

/-- The first line of the initialiser of a service class. -/
def serviceInitLine : String :=
  "super().__init__(authenticator, client, base_uri, return_type)"

/-- The documentation of a service class: the title of the service, which is its name and version
if none is given, and its description. -/
def serviceDoc (service : Discovery.Service) : Except Fault Json := do
  let title :=
    if service.title.isGiven then service.title
    else .str (service.name ++ " " ++ service.version)
  let description := Text.collapse (← ofDiscovery service.description.asText)
  if description = "" then return title
  else return .str (title.display ++ "\n\n" ++ description)

/-- The class of a service. -/
def serviceClass (service : Discovery.Service) (chain : List ServiceDecoration) :
    Except Fault Class := do
  let doc ← serviceDoc service
  let bare : Class := {
    name := Naming.serviceClass service.name
    bases := ["Service"]
    doc := doc
    initArgs := serviceInitArgs
    initLines := [serviceInitLine] }
  decorateAll (ServiceDecoration.decorate service) bare chain

/-- The class of the resource at a path. -/
def resourceClass (body : Json) (chain : List ResourceDecoration) (path : String)
    (resource : Json.Members) : Except Fault Class := do
  let declared ← ofDiscovery (Json.getOr resource "description" (.str "")).asText
  let description := Text.collapse declared
  let bare : Class := {
    name := Naming.resourceClass path
    doc := .str (if description = "" then "Methods of the " ++ Text.quoted path ++ " resource."
      else description)
    initArgs := "service: Service" }
  decorateAll (ResourceDecoration.decorate body chain path (.obj resource)) bare chain

/-! ## Making a module -/

/-- The logger of modules. -/
def logger : String := "discogen.context_builder"

/-- The record of a class that was made. -/
def classRecord (path : String) (c : Class) : Log.Record :=
  ⟨.debug, logger, "resource " ++ path ++ " -> " ++ c.name ++ " (" ++ toString c.methods.length ++
    " methods)"⟩

/-- The record of a module that was made. -/
def moduleRecord (m : Module) : Log.Record :=
  ⟨.info, logger, m.name ++ " " ++ m.version ++ ": " ++ toString m.resources.length ++
    " resources, " ++ toString m.methodCount ++ " methods"⟩

/-- The classes of resources, and the records of those made before a fault. The names in `seen` are
those of the classes made so far. -/
def resourceClasses (body : Json) (chain : List ResourceDecoration) (seen : List String) :
    List (String × Json.Members) → Except Fault (List Class) × List Log.Record
  | [] => (.ok [], [])
  | (path, resource) :: rest =>
    match resourceClass body chain path resource with
    | .error fault => (.error fault, [])
    | .ok c =>
      if seen.contains c.name then (.error (.duplicateClass path c.name), [])
      else
        let (others, log) := resourceClasses body chain (c.name :: seen) rest
        (others.map (c :: ·), classRecord path c :: log)

/-- The module for a document, given the chains of decorations, and the log. -/
def build (document : Json) (serviceChain : List ServiceDecoration)
    (resourceChain : List ResourceDecoration) : Except Fault Module × List Log.Record :=
  let begun : Except Fault (Discovery.Document × Class × List (String × Json.Members)) := do
    let service ← ofDiscovery (Discovery.Service.ofJson document)
    let described ← ofDiscovery (Discovery.Document.ofJson document)
    let serviceClass ← serviceClass service serviceChain
    let tree ← ofDiscovery (Discovery.Tree.visitNested "" described.body)
    return (described, serviceClass, tree)
  match begun with
  | .error fault => (.error fault, [])
  | .ok (described, serviceClass, tree) =>
    match resourceClasses (.obj described.body) resourceChain [serviceClass.name] tree with
    | (.error fault, log) => (.error fault, log)
    | (.ok resources, log) =>
      let m : Module := ⟨described.name, described.version, serviceClass, resources⟩
      (.ok m, log ++ [moduleRecord m])

/-- The module for a document with the usual chains. -/
def ofDocument (document : Json) : Except Fault Module × List Log.Record :=
  build document (ServiceDecoration.usual document) ResourceDecoration.usual

end Module
end ApiDiscovery.Source
