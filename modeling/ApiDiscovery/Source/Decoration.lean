import ApiDiscovery.Discovery.Service
import ApiDiscovery.Source.Accessor
import ApiDiscovery.Source.Method

/-!
# Decorations

What the class of a service or of a resource consists of is decided by a chain of decorations, which
add their members one after another. A decoration of a resource may also add lines to the methods
that another one makes, around the call of the service.
-/

namespace ApiDiscovery.Source

/-! ## Services -/

/-- What is added to the class of a service. -/
inductive ServiceDecoration where
  | versionInformation
  | discoveryDocument (document : Json)
  | resourceAccessors

namespace ServiceDecoration

/-- The operations of a decoration. -/
def plan (service : Discovery.Service) (c : Class) : ServiceDecoration → Plan
  | versionInformation =>
    ⟨[.field "NAME" (.str service.name), .field "VERSION" (.str service.version),
      .field "BASE_URI" service.baseUri], none⟩
  | discoveryDocument document => ⟨[.field "DISCOVERY" document], none⟩
  | resourceAccessors =>
    ⟨accessors c "self" ((Ordered.names service.resources).map fun name => ⟨name, name⟩), none⟩

/-- The usual chain. -/
def usual (document : Json) : List ServiceDecoration :=
  [versionInformation, discoveryDocument document, resourceAccessors]

/-- Decorates the class of a service: the class then and the fault. -/
def decorate (service : Discovery.Service) (c : Class) (d : ServiceDecoration) :
    Class × Option Fault := c.carryOut (d.plan service c)

end ServiceDecoration

/-! ## Resources -/

/-- What is added to the class of a resource. -/
inductive ResourceDecoration where
  | nothing
  | serviceField
  | resourceName
  | subresourceAccessors
  | methods (withHooks : Bool)
  | lines (before after : List String)
  deriving DecidableEq, Repr

namespace ResourceDecoration

/-- A line with the path of a resource and then the name of a method filled in. -/
def fillIn (path name line : String) : String :=
  ((line.replace "%p" path).replace "%m" name)

/-- The lines that a decoration adds before the call in a method. -/
def linesBefore (path name : String) : ResourceDecoration → List String
  | lines before _ => before.map (fillIn path name)
  | _ => []

/-- The lines that a decoration adds after the call in a method. -/
def linesAfter (path name : String) : ResourceDecoration → List String
  | lines _ after => after.map (fillIn path name)
  | _ => []

/-- A method with the lines of a chain around its call. -/
def withLines (chain : List ResourceDecoration) (m : Method) : Method :=
  { m with
    beforeExecute := m.beforeExecute ++ chain.flatMap (linesBefore m.resource m.name)
    afterExecute := m.afterExecute ++ chain.flatMap (linesAfter m.resource m.name) }

/-- The operations that add the methods of a resource, with names from an allocator. -/
def methodsPlan (body : Json) (chain : List ResourceDecoration) (path : String)
    (names : Naming.Allocator) : Json.Members → Plan
  | [] => ⟨[], none⟩
  | (discoveryName, declared) :: rest =>
    let (name, names) := names.allocate (Naming.identifier discoveryName)
    match Method.ofDeclared body path discoveryName declared name with
    | .error fault => ⟨[], some fault⟩
    | .ok method =>
      let others := methodsPlan body chain path names rest
      { others with operations := .method (withLines chain method) :: others.operations }

/-- The children with these names of the resource at a path, up to the first name that is no text,
and whether there is one. -/
def childrenOf (path : String) : List Json → List Child × Option Fault
  | [] => ([], none)
  | .str name :: rest =>
    let (others, fault) := childrenOf path rest
    (⟨name, path ++ "." ++ name⟩ :: others, fault)
  | _ :: _ => ([], some .shape)

/-- A plan that may fail before it starts. -/
def orFault (plan : Except Discovery.Fault Plan) : Plan :=
  match plan with
  | .ok plan => plan
  | .error fault => ⟨[], some (.document fault)⟩

/-- The operations of a decoration in a chain, for the resource at a path. -/
def plan (body : Json) (chain : List ResourceDecoration) (path : String) (resource : Json)
    (c : Class) : ResourceDecoration → Plan
  | nothing => ⟨[], none⟩
  | serviceField =>
    ⟨[.autoProperty "service" "Service" "The owning service client." "service"], none⟩
  | resourceName => ⟨[.field "RESOURCE" (.str path)], none⟩
  | subresourceAccessors => orFault do
    let members ← resource.asObject
    let names ← (Json.getOr members "resources" (.obj [])).elements
    let (children, fault) := childrenOf path names
    return ⟨accessors c "service" children, fault⟩
  | methods withHooks => orFault do
    let members ← resource.asObject
    let declared ← Json.objectAt members "methods"
    let hooks := if withHooks then chain else []
    return methodsPlan body hooks path (Naming.Allocator.ofTaken c.names) declared
  | lines _ _ => ⟨[], none⟩

/-- The usual chain. -/
def usual : List ResourceDecoration :=
  [serviceField, resourceName, subresourceAccessors, methods true]

/-- Decorates the class of a resource: the class then and the fault. -/
def decorate (body : Json) (chain : List ResourceDecoration) (path : String) (resource : Json)
    (c : Class) (d : ResourceDecoration) : Class × Option Fault :=
  c.carryOut (d.plan body chain path resource c)

end ResourceDecoration

/-! ## Chains -/

/-- Applies decorations in turn until one fails. -/
def decorateAll {δ : Type} (decorate : Class → δ → Class × Option Fault) (c : Class) :
    List δ → Except Fault Class
  | [] => .ok c
  | decoration :: rest =>
    match decorate c decoration with
    | (_, some fault) => .error fault
    | (changed, none) => decorateAll decorate changed rest

end ApiDiscovery.Source
