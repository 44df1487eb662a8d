import ApiDiscovery.Schema.Reference

/-!
# Types of values

A schema says what values it admits; its type is the scalar it names, an object, or a list of the
type of its items. A reference is followed unless it was followed before on the same way, so cycles
end, and the type of a cycle is that of objects.
-/

namespace ApiDiscovery.Schema

open ApiDiscovery.Discovery (Fault)

/-- The type of the values that a schema admits. -/
inductive ValueType where
  | text
  | integer
  | number
  | truth
  | any
  | object
  | list (item : ValueType)
  deriving DecidableEq, Repr

namespace ValueType

/-- The name of a type in source text. -/
def annotation : ValueType → String
  | text => "str"
  | integer => "int"
  | number => "float"
  | truth => "bool"
  | any => "Any"
  | object => "dict"
  | list item => "list[" ++ item.annotation ++ "]"

/-- The type that a schema names. -/
def ofName? : Json → Option ValueType
  | .str "string" => some text
  | .str "integer" => some integer
  | .str "number" => some number
  | .str "boolean" => some truth
  | .str "any" => some any
  | _ => none

mutual

/-- The type of a schema, with `follow` for its references. -/
def ofSchemaWith (follow : Json → Except Fault ValueType) : Json → Except Fault ValueType
  | .obj members =>
    if members.isEmpty then .ok any
    else
      match Json.lookup "$ref" members with
      | some reference => follow reference
      | none =>
        let declared := Json.getOr members "type" .null
        if !declared.isScalar then .error .shape
        else
          match ofName? declared with
          | some named => .ok named
          | none =>
            if declared.same (.str "array") then (ofItems follow members).map list
            else if declared.same (.str "object") || (Json.lookup "properties" members).isSome then
              .ok object
            else .ok any
  | schema => if schema.isGiven then .error .shape else .ok any

/-- The type of the items that the first member called `items` describes. -/
def ofItems (follow : Json → Except Fault ValueType) :
    List (String × Json) → Except Fault ValueType
  | [] => .ok any
  | (key, value) :: rest =>
    if key = "items" then ofSchemaWith follow value else ofItems follow rest

end

/-- The type of a schema; `seen` are the references on the way to it and `fuel` is a bound for
those still to come. -/
def ofSchemaFrom (body : Json) : Nat → List Json → Json → Except Fault ValueType
  | 0, _, _ => .ok object
  | fuel + 1, seen, schema =>
    ofSchemaWith (fun reference =>
      if !reference.isScalar then .error .shape
      else if seen.any reference.sameKey then .ok object
      else
        match resolve body reference with
        | .error fault => .error fault
        | .ok resolved => ofSchemaFrom body fuel (reference :: seen) resolved) schema

/-- How many different references a description can have: a position in a list can be counted from
either end. -/
def referenceCount (body : Json) : Nat :=
  match schemasOf body with
  | .ok schemas =>
    match schemas.elements with
    | .ok items => 2 * items.length
    | .error _ => 0
  | .error _ => 0

/-- The type of a schema of a description. -/
def ofSchema (body schema : Json) : Except Fault ValueType :=
  ofSchemaFrom body (referenceCount body + 2) [] schema

end ValueType
end ApiDiscovery.Schema
