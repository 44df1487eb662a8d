import ApiDiscovery.Naming.Identifier
import ApiDiscovery.Schema.Markup
import ApiDiscovery.Schema.ValueType

/-!
# Arguments of methods

A method has one argument for each parameter. The parameters that the method puts in order come
first, then the others as they are declared, and among all of them the required ones stand before
the optional ones.
-/

namespace ApiDiscovery.Schema

open ApiDiscovery.Discovery (Fault)

/-- What a document says about a parameter beyond what a signature needs. -/
structure Details where
  description : String
  choices : Json
  location : Json
  pattern : Json
  repeated : Bool

/-- An argument of a generated method: the name of its parameter and its own, its type, and whether
it is required. An argument that was read from a document has details. -/
structure Argument where
  name : String
  argument : String
  annotation : String
  required : Bool
  details : Option Details := none

namespace Argument

/-! ## Order -/

/-- The declared names that the method lists, in the order and as often as they are listed. -/
def listed (declared : Json.Members) : List Json → Except Fault (List String)
  | [] => .ok []
  | .str name :: rest => do
    let others ← listed declared rest
    return if (Json.lookup name declared).isSome then name :: others else others
  | other :: rest => if other.isScalar then listed declared rest else .error .shape

/-- The parameter called `name` is required. -/
def isRequired (declared : Json.Members) (name : String) : Except Fault Bool := do
  let members ← (Json.getOr declared name .null).asObject
  return Json.isGivenAt members "required"

/-- The names with whether each is required. -/
def marked (declared : Json.Members) : List String → Except Fault (List (String × Bool))
  | [] => .ok []
  | name :: rest => do
    let required ← isRequired declared name
    let others ← marked declared rest
    return (name, required) :: others

/-- The names with the required ones first; otherwise they keep their order. -/
def requiredFirst (names : List (String × Bool)) : List String :=
  ((names.filter fun p => p.2) ++ names.filter fun p => !p.2).map Prod.fst

/-- The names of the parameters of a method in the order of its arguments. -/
def order (declared : Json.Members) (wanted : List Json) : Except Fault (List String) := do
  let first ← listed declared wanted
  let rest := (Json.keys declared).filter fun name => !first.contains name
  let markedRest ← marked declared rest
  let markedFirst ← marked declared first
  return requiredFirst (markedFirst ++ markedRest)

/-! ## Descriptions -/

/-- The type of a parameter; a repeated one is a list. -/
def typeOf (body : Json) (members : Json.Members) : Except Fault ValueType := do
  let single ← ValueType.ofSchema body (.obj members)
  return if Json.isGivenAt members "repeated" then .list single else single

/-- The text without the full stops at its end. -/
def withoutStops (s : String) : String :=
  String.ofList ((s.toList.reverse.dropWhile (· == '.')).reverse)

/-- The description of a parameter with the values it is restricted to. -/
def describe (members : Json.Members) : Except Fault String := do
  let declared ← (Json.getOr members "description" (.str "")).asText
  let description := stripMarkup declared
  let choices := Json.getOr members "enum" .null
  if choices.isGiven then
    let values := Text.joinWith ", " ((← choices.elements).map Json.display)
    if description = "" then return "Values: " ++ values
    else return withoutStops description ++ " (values: " ++ values ++ ")"
  else return description

/-- The argument for a parameter of a method. -/
def ofParameter (body : Json) (name : String) (declared : Json) : Except Fault Argument := do
  let members ← declared.asObject
  let valueType ← typeOf body members
  let description ← describe members
  return {
    name := name
    argument := Naming.argument name
    annotation := valueType.annotation
    required := Json.isGivenAt members "required"
    details := some {
      description := description
      choices := Json.getOr members "enum" .null
      location := (Json.firstGiven members ["location", "parameterType"]).getD (.str "query")
      pattern := Json.getOr members "pattern" .null
      repeated := Json.isGivenAt members "repeated" } }

/-- The arguments for the named parameters. -/
def ofNames (body : Json) (declared : Json.Members) : List String → Except Fault (List Argument)
  | [] => .ok []
  | name :: rest => do
    let argument ← ofParameter body name (Json.getOr declared name .null)
    let others ← ofNames body declared rest
    return argument :: others

/-! ## Parameters that are no object -/

/-- The item of an array that a key stands for, which has to be an object; only a whole number is
a key of an array. -/
def parameterAt (items : List Json) (key : Json) : Except Fault Json.Members :=
  match key.whole? with
  | some position => (itemAt items position).bind Json.asObject
  | none => .error .shape

/-- Looks up the items of an array as the keys of parameters: first those that the method does not
list, then those that it lists. No array holds every one of its items at the position that the
item stands for, so only an array without items passes. -/
def checkItems (items wanted : List Json) : Except Fault Unit := do
  let first := wanted.filter fun key => items.any key.same
  let rest := items.filter fun key => !first.any key.same
  (rest ++ first).forM fun key => (parameterAt items key).map fun _ => ()

/-- A text declares no parameter: it has to be empty, and what the method lists has to be texts
that an empty text does not hold. -/
def checkText (text : String) (wanted : List Json) : Except Fault Unit :=
  if text = "" && wanted.all (fun key => key.isText && !key.same (.str "")) then .ok ()
  else .error .shape

/-- The arguments of a method; an array or a text that declares nothing gives it none. -/
def ofMethod (body : Json) (method : Json.Members) : Except Fault (List Argument) := do
  let wanted ← (Json.getOr method "parameterOrder" (.arr [])).elements
  match Json.getOr method "parameters" (.obj []) with
  | .obj declared =>
    let names ← order declared wanted
    ofNames body declared names
  | .arr items =>
    checkItems items wanted
    return []
  | .str text =>
    checkText text wanted
    return []
  | _ => .error .shape

end Argument

/-! ## Bodies -/

/-- The schema of the request body: the reference to it, or that it is any object; none if the
method takes no body. -/
def requestType (method : Json.Members) : Except Fault Json :=
  let request := Json.getOr method "request" .null
  if request.isGiven then do
    let members ← request.asObject
    return Json.getOr members "$ref" (.str "dict")
  else .ok .null

/-- The schema of the response: the reference to it, its type, or that there is none. -/
def responseType (body : Json) (method : Json.Members) : Except Fault Json :=
  let response := Json.getOr method "response" .null
  if response.isGiven then do
    let members ← response.asObject
    match Json.lookup "$ref" members with
    | some reference => return reference
    | none =>
      let valueType ← ValueType.ofSchema body response
      return .str valueType.annotation
  else .ok (.str "none")

end ApiDiscovery.Schema
