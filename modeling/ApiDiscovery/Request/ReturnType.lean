import ApiDiscovery.Json.Value

/-!
# Encodings of responses and verbs

A request asks for its response in one of two encodings and has one of four verbs; two of the verbs
take a body.
-/

namespace ApiDiscovery.Request

/-- The encoding that a response is asked for in. -/
inductive ReturnType where
  | json
  | atom
  deriving DecidableEq, Repr

namespace ReturnType

/-- The name of an encoding on the wire. -/
def name : ReturnType → String
  | json => "json"
  | atom => "atom"

/-- The content type of an encoding. -/
def contentType : ReturnType → String
  | json => "application/json"
  | atom => "application/atom+xml"

/-- The encoding with this name. -/
def ofJson? : Json → Option ReturnType
  | .str "json" => some json
  | .str "atom" => some atom
  | _ => none

end ReturnType

/-- The verb of a request. -/
inductive Verb where
  | get
  | put
  | post
  | delete
  deriving DecidableEq, Repr

namespace Verb

/-- The name of a verb. -/
def name : Verb → String
  | get => "GET"
  | put => "PUT"
  | post => "POST"
  | delete => "DELETE"

/-- The verb with this name. -/
def ofName? : String → Option Verb
  | "GET" => some get
  | "PUT" => some put
  | "POST" => some post
  | "DELETE" => some delete
  | _ => none

/-- How a request with this verb is called. -/
def requestName : Verb → String
  | get => "GetRequest"
  | put => "PutRequest"
  | post => "PostRequest"
  | delete => "DeleteRequest"

/-- A request with this verb has a body. -/
def takesBody : Verb → Bool
  | put => true
  | post => true
  | _ => false

end Verb
end ApiDiscovery.Request
