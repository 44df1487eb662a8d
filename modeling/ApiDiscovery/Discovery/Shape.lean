import ApiDiscovery.Discovery.Fault

/-!
# Values where a shape is needed

A document is untyped. Where the description of a service needs an object or a collection any other
value is a fault; where it only asks whether something is given every value is an answer.
-/

namespace ApiDiscovery.Json

open ApiDiscovery.Discovery (Fault)

/-- The members of a value that has to be an object. -/
def asObject : Json → Except Fault Members
  | obj members => .ok members
  | _ => .error .shape

/-- The text of a value that has to be a text. -/
def asText : Json → Except Fault String
  | str s => .ok s
  | _ => .error .shape

/-- The elements of a value that has to be a collection: the items of an array, the characters of a
text, the keys of an object. -/
def elements : Json → Except Fault (List Json)
  | arr items => .ok items
  | str s => .ok (s.toList.map fun c => str (String.ofList [c]))
  | obj members => .ok (members.map fun member => str member.1)
  | _ => .error .shape

/-- The value of a key, or what stands in for one that is not there. -/
def getOr (members : Members) (key : String) (default : Json) : Json :=
  (lookup key members).getD default

/-- The key has a value that counts as given. -/
def isGivenAt (members : Members) (key : String) : Bool := (getOr members key null).isGiven

/-- The first value that counts as given under some of the keys. -/
def firstGiven (members : Members) : List String → Option Json
  | [] => none
  | key :: rest =>
    match lookup key members with
    | some value => if value.isGiven then some value else firstGiven members rest
    | none => firstGiven members rest

/-- The members of the object under a key; an absent key stands for an empty object. -/
def objectAt (members : Members) (key : String) : Except Fault Members :=
  (getOr members key (obj [])).asObject

end ApiDiscovery.Json
