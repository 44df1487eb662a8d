import ApiDiscovery.Discovery.Shape
import ApiDiscovery.Pattern.Search

/-!
# Parameters

A parameter of a method goes into the path or into the query of a request. Its description is taken
from the document as it is, except that the parts which a request depends on are read: where it
goes, whether it is required, and the pattern its value has to match.
-/

namespace ApiDiscovery.Discovery

/-- The part of a request that a parameter goes into. -/
inductive Location where
  | path
  | query
  deriving DecidableEq, Repr

/-- The name of a location in documents. -/
def Location.name : Location → String
  | path => "path"
  | query => "query"

/-- The location with this name. -/
def Location.ofJson? : Json → Option Location
  | .str "path" => some path
  | .str "query" => some query
  | _ => none

/-- A parameter that a method declares. A document gives a text as its pattern, or null; a pattern
of another kind is found out when a value is checked. -/
structure Parameter where
  name : String
  wireName : Json
  location : Location := .query
  required : Bool := false
  pattern : Json := .null
  valueType : Json := .str "string"
  description : Json := .str ""
  defaultText : Option String := none
  choices : Option (List String) := none
  repeated : Bool := false

namespace Parameter

/-- The place a parameter is declared for, under the newer or the older key. -/
def locationOf (name : String) (members : Json.Members) : Except Fault Location :=
  let declared := (Json.firstGiven members ["location", "parameterType"]).getD (.str "query")
  match Location.ofJson? declared with
  | some location => .ok location
  | none => .error (.unknownLocation name declared)

/-- The pattern of a parameter, which has to be one, or null. -/
def patternOf (name : String) (members : Json.Members) : Except Fault Json :=
  match Json.getOr members "pattern" .null with
  | .null => .ok .null
  | .str pattern =>
    match Pattern.ofText pattern with
    | .ok _ => .ok (.str pattern)
    | .error fault =>
      if fault.isLimit then .error (.patternLimit fault)
      else .error (.badPattern name pattern fault)
  | _ => .error .shape

/-- The values a parameter is restricted to, as texts. -/
def choicesOf (members : Json.Members) : Except Fault (Option (List String)) :=
  let declared := Json.getOr members "enum" .null
  if declared.isGiven then declared.elements.map fun items => some (items.map Json.display)
  else .ok none

/-- The parameter that a document declares under `name`. -/
def ofJson (name : String) (declared : Json) : Except Fault Parameter := do
  let members ← declared.asObject
  let location ← locationOf name members
  let pattern ← patternOf name members
  let choices ← choicesOf members
  return {
    name := name
    wireName := Json.getOr members "name" (.str name)
    location := location
    required := Json.isGivenAt members "required"
    pattern := pattern
    valueType := Json.getOr members "type" (.str "string")
    description := Json.getOr members "description" (.str "")
    defaultText :=
      match Json.getOr members "default" .null with
      | .null => none
      | value => some value.display
    choices := choices
    repeated := Json.isGivenAt members "repeated" }

/-- The parameters that a document declares in an object. -/
def allOfJson : Json.Members → Except Fault (Ordered Parameter)
  | [] => .ok []
  | (name, declared) :: rest => do
    let parameter ← ofJson name declared
    let others ← allOfJson rest
    return (name, parameter) :: others

end Parameter
end ApiDiscovery.Discovery
