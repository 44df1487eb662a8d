import ApiDiscovery.Discovery.Shape

/-!
# Documents

A document describes one version of one service. In the newer layout the document is the
description; in the older one the description stands under the name and the version of the service.
-/

namespace ApiDiscovery.Discovery

/-- What a document describes: a service, its version, and the members of the description. -/
structure Document where
  name : String
  version : String
  body : Json.Members

namespace Document

/-- The document in the newer layout. -/
def newer? (members : Json.Members) : Option Document :=
  match Json.lookup "name" members, Json.lookup "version" members with
  | some name, some version => some ⟨name.display, version.display, members⟩
  | _, _ => none

/-- The document in the older layout. -/
def older? (members : Json.Members) : Option Document :=
  match Json.lookup "data" members with
  | some (.obj [(name, .obj [(version, .obj body)])]) => some ⟨name, version, body⟩
  | _ => none

/-- The document that a value is. -/
def ofJson : Json → Except Fault Document
  | .obj members =>
    match newer? members with
    | some document => .ok document
    | none =>
      match older? members with
      | some document => .ok document
      | none => .error .noNameAndVersion
  | _ => .error .notAnObject

end Document
end ApiDiscovery.Discovery
