import ApiDiscovery.Discovery.Method
import ApiDiscovery.Text.Pieces

/-!
# Resources

A resource has methods and resources of its own. A dotted path names a resource from the top, and
the walk through all of them visits a resource before those in it.
-/

namespace ApiDiscovery.Discovery

/-- A resource with its methods and the resources in it. -/
inductive Resource where
  | node (name : String) (methods : List (String × Method)) (resources : List (String × Resource))

namespace Resource

/-- The name of a resource. -/
def name : Resource → String
  | node name _ _ => name

/-- The methods of a resource. -/
def methods : Resource → Ordered Method
  | node _ methods _ => methods

/-- The resources in a resource. -/
def resources : Resource → Ordered Resource
  | node _ _ resources => resources

mutual

/-- The resource that a document declares under `name`. -/
def ofJson (shared : Ordered Parameter) (name : String) : Json → Except Fault Resource
  | .obj members => do
    let methods ← Method.allOfJson shared (← Json.objectAt members "methods")
    let resources ← nested shared members
    return node name methods resources
  | _ => .error .shape

/-- The resources that the first member called `resources` declares. -/
def nested (shared : Ordered Parameter) :
    List (String × Json) → Except Fault (List (String × Resource))
  | [] => .ok []
  | (key, value) :: rest =>
    if key = "resources" then
      match value with
      | .obj declared => allOfJson shared declared
      | _ => .error .shape
    else nested shared rest

/-- The resources that a document declares in an object. -/
def allOfJson (shared : Ordered Parameter) :
    List (String × Json) → Except Fault (List (String × Resource))
  | [] => .ok []
  | (name, declared) :: rest => do
    let resource ← ofJson shared name declared
    let others ← allOfJson shared rest
    return (name, resource) :: others

end

/-! ## Paths -/

/-- The path of a resource in the resource at the path `above`, which is empty at the top. -/
def pathIn (above name : String) : String := if above = "" then name else above ++ "." ++ name

/-- The resource that the parts of a path lead to. -/
def find? : List String → Ordered Resource → Option Resource
  | [], _ => none
  | [name], resources => Ordered.get? resources name
  | name :: rest, resources => (Ordered.get? resources name).bind fun r => find? rest r.resources

mutual

/-- The methods of a resource and of those in it, each with the path of its resource. -/
def methodsBelow (path : String) : Resource → List (String × Method)
  | node _ methods resources =>
    (methods.map fun method => (path, method.2)) ++ allMethodsBelow path resources

/-- The methods of all resources in the resource at the path `above`. -/
def allMethodsBelow (above : String) : List (String × Resource) → List (String × Method)
  | [] => []
  | (name, resource) :: rest =>
    methodsBelow (pathIn above name) resource ++ allMethodsBelow above rest

end

end Resource
end ApiDiscovery.Discovery
