import ApiDiscovery.Discovery.Shape

/-!
# References to schemas

A description names its schemas; a schema refers to another by name. Where the schemas are a list
or a text, a reference is a position in it, counted from the end if it is negative.
-/

namespace ApiDiscovery.Schema

open ApiDiscovery.Discovery (Fault)

/-- The schemas of a description. -/
def schemasOf (body : Json) : Except Fault Json := do
  let members ← body.asObject
  return Json.getOr members "schemas" (.obj [])

/-- The item at a position, which counts from the end if it is negative. -/
def itemAt (items : List Json) (position : Int) : Except Fault Json :=
  let offset := if position < 0 then position + Int.ofNat items.length else position
  if offset < 0 then .error .outside
  else
    match items[offset.toNat]? with
    | some item => .ok item
    | none => .error .outside

/-- The entry that a reference names among the schemas. -/
def entryOf (schemas reference : Json) : Except Fault Json :=
  match schemas with
  | .obj members =>
    match reference with
    | .str name =>
      match Json.lookup name members with
      | some schema => .ok schema
      | none => .error (.unknownReference reference)
    | _ => if reference.isScalar then .error (.unknownReference reference) else .error .shape
  | .arr _ | .str _ =>
    match reference.whole?, schemas.elements with
    | some position, .ok items => itemAt items position
    | _, _ => .error .shape
  | _ => .error .shape

/-- The schema of a description that a reference names. -/
def resolve (body reference : Json) : Except Fault Json := do
  let schemas ← schemasOf body
  entryOf schemas reference

end ApiDiscovery.Schema
