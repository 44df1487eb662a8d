import ApiDiscovery.Discovery.Parameter
import ApiDiscovery.Text.Case
import ApiDiscovery.Uri.Template

/-!
# Methods

A method has a path template, a verb and parameters: its own and those that all methods of the
service share. Its path is looked for under three keys and its identifier under two.
-/

namespace ApiDiscovery.Discovery

/-- A method that a document declares. -/
structure Method where
  name : String
  id : Json
  verb : String
  path : Json
  parameters : Ordered Parameter
  parameterOrder : List Json := []
  description : Json := .str ""
  hasBody : Bool := false

namespace Method

/-- The path of a method. -/
def pathOf? (members : Json.Members) : Option Json :=
  Json.firstGiven members ["path", "restPath", "pathUrl"]

/-- The identifier of a method, if one is given. -/
def idOf? (members : Json.Members) : Option Json := Json.firstGiven members ["id", "rpcName"]

/-- The verb of a method in capital letters. -/
def verbOf (members : Json.Members) : String :=
  Text.upper (Json.getOr members "httpMethod" (.str "GET")).display

/-- The method that a document declares under `name`, with the shared parameters before its own. -/
def ofJson (shared : Ordered Parameter) (name : String) (declared : Json) :
    Except Fault Method := do
  let members ← declared.asObject
  match pathOf? members with
  | none => .error (.noPath name)
  | some path =>
    let own ← Json.objectAt members "parameters"
    let parameters ← Parameter.allOfJson own
    let order ← (Json.getOr members "parameterOrder" (.arr [])).elements
    return {
      name := name
      id := (idOf? members).getD (.str name)
      verb := verbOf members
      path := path
      parameters := Ordered.insertAll shared parameters
      parameterOrder := order
      description := Json.getOr members "description" (.str "")
      hasBody := (Json.lookup "request" members).isSome }

/-- The methods that a document declares in an object. -/
def allOfJson (shared : Ordered Parameter) : Json.Members → Except Fault (Ordered Method)
  | [] => .ok []
  | (name, declared) :: rest => do
    let method ← ofJson shared name declared
    let others ← allOfJson shared rest
    return (name, method) :: others

/-- The path template of a method, whose path has to be a text. -/
def template (m : Method) : Except Fault Uri.Template := m.path.asText.map Uri.Template.ofText

end Method
end ApiDiscovery.Discovery
