import ApiDiscovery.Discovery.Resource

/-!
# The tree of resources

The resources of a description as the document has them: each with its dotted path, a resource
before those in it.
-/

namespace ApiDiscovery.Discovery.Tree

mutual

/-- A resource with its path, and those in it after it. -/
def visit (path : String) : Json → Except Fault (List (String × Json.Members))
  | .obj members => do
    let inner ← visitNested path members
    return (path, members) :: inner
  | _ => .error .shape

/-- The resources that the first member called `resources` holds. -/
def visitNested (path : String) :
    List (String × Json) → Except Fault (List (String × Json.Members))
  | [] => .ok []
  | (key, value) :: rest =>
    if key = "resources" then
      match value with
      | .obj resources => visitAll path resources
      | _ => .error .shape
    else visitNested path rest

/-- The resources of an object, whose paths start with `above`. -/
def visitAll (above : String) :
    List (String × Json) → Except Fault (List (String × Json.Members))
  | [] => .ok []
  | (name, resource) :: rest => do
    let visited ← visit (Resource.pathIn above name) resource
    let others ← visitAll above rest
    return visited ++ others

end

/-- The names of the methods of a resource. -/
def methodNames (resource : Json.Members) : Except Fault (List Json) :=
  (Json.getOr resource "methods" (.obj [])).elements

end ApiDiscovery.Discovery.Tree
