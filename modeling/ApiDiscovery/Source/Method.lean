import ApiDiscovery.Discovery.Method
import ApiDiscovery.Naming.Allocator
import ApiDiscovery.Source.Class

/-!
# Methods of resource classes

A method of a resource class is made from the method that the document declares: its arguments get
names of their own, and its documentation tells what the document says about it and them.
-/

namespace ApiDiscovery.Source

/-! ## Documentation -/

/-- What a method does: its description, or else its verb and its path. -/
def summary (declared : Json.Members) : Except Fault String := do
  let description ← ofDiscovery (Json.getOr declared "description" (.str "")).asText
  let words := Text.collapse description
  if words = "" then
    let path := (Discovery.Method.pathOf? declared).getD (Json.getOr declared "pathUrl" (.str ""))
    return Discovery.Method.verbOf declared ++ " " ++ path.display
  else return words

/-- The line about an argument. -/
def argumentLine (a : Schema.Argument) : String :=
  let description := (a.details.map Schema.Details.description).getD ""
  ":param " ++ a.argument ++ ": " ++ (if description = "" then a.name else description) ++
    if a.required then " (required)" else ""

/-- The documentation of a method. -/
def methodDoc (declared : Json.Members) (arguments : List Schema.Argument)
    (requestType responseType : Json) : Except Fault String := do
  let first ← summary declared
  let gap := if arguments.isEmpty && !requestType.isGiven then [] else [""]
  let body :=
    if requestType.isGiven then [":param body: " ++ requestType.display ++ " request body."]
    else []
  let response :=
    if responseType.same (.str "none") then []
    else ["", "Responds with " ++ responseType.display ++ "."]
  return Text.joinWith "\n" (first :: gap ++ arguments.map argumentLine ++ body ++ response)

/-! ## Arguments -/

/-- The names that the body of a method uses. -/
def localNames : List String := ["self", "body", "kwargs", "parameters", "response"]

/-- The arguments with names from an allocator. -/
def renamed (names : Naming.Allocator) : List Schema.Argument → List Schema.Argument
  | [] => []
  | a :: rest =>
    let (argument, names) := names.allocate a.argument
    { a with argument := argument } :: renamed names rest

/-- The arguments of a method, with distinct names that its body does not use. -/
def argumentsOf (body : Json) (declared : Json.Members) : Except Fault (List Schema.Argument) := do
  let arguments ← ofDiscovery (Schema.Argument.ofMethod body declared)
  return renamed (Naming.Allocator.ofTaken localNames) arguments

/-- The method called `name` for the method that the resource at a path declares. -/
def Method.ofDeclared (body : Json) (path discoveryName : String) (declared : Json)
    (name : String) : Except Fault Method := do
  let members ← ofDiscovery declared.asObject
  let arguments ← argumentsOf body members
  let requestType ← ofDiscovery (Schema.requestType members)
  let responseType ← ofDiscovery (Schema.responseType body members)
  let doc ← methodDoc members arguments requestType responseType
  return {
    name := name
    resource := path
    discoveryName := discoveryName
    rpcName := (Discovery.Method.idOf? members).getD (.str (path ++ "." ++ discoveryName))
    verb := Discovery.Method.verbOf members
    arguments := arguments
    doc := doc
    requestType := requestType
    responseType := responseType }

end ApiDiscovery.Source
