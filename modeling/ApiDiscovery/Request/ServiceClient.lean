import ApiDiscovery.Discovery.Service
import ApiDiscovery.Request.Session

/-!
# Clients of a service

A service client knows the service it was made for and sends a request for a call of one of its
methods. It closes only a client that it opened itself.
-/

namespace ApiDiscovery.Request

/-- A client of one service. -/
structure ServiceClient where
  service : Discovery.Service
  base : Json
  authenticator : Authenticator := .anonymous
  returnType : ReturnType := .json
  ownsClient : Bool := true
  client : Client

namespace ServiceClient

/-- The logger of service clients. -/
def logger : String := "discoclient.service"

/-- The client of the service that a document describes; a base address that counts as given goes
before that of the document. -/
def create (document base : Json) (authenticator : Authenticator) (returnType : ReturnType)
    (ownsClient : Bool) (client : Client) : Except Discovery.Fault ServiceClient := do
  let service ← Discovery.Service.ofJson document
  return {
    service := service
    base := if base.isGiven then base else service.baseUri
    authenticator := authenticator
    returnType := returnType
    ownsClient := ownsClient
    client := client }

/-- The session for a call of a method. -/
def session (s : ServiceClient) (method : Discovery.Method) (parameters : Json)
    (body : Option (List UInt8)) : Except Fault Session := do
  let draft ← Draft.create method s.base
  let parameters ← Draft.parametersOf parameters
  return {
    draft := { draft with returnType := s.returnType, parameters := parameters, body := body }
    authenticator := s.authenticator
    client := s.client }

/-- Calls a method of a resource. -/
def execute (s : ServiceClient) (resource name : String) (parameters : Json)
    (body : Option (List UInt8)) : Except Fault Response × ServiceClient × List Log.Record :=
  match s.service.method resource name with
  | .error fault => (.error (.document fault), s, [])
  | .ok method =>
    let calling : Log.Record := ⟨.debug, logger, "calling " ++ method.id.display⟩
    match s.session method parameters body with
    | .error fault => (.error fault, s, [calling])
    | .ok session =>
      let outcome := session.execute
      (outcome.answer, { s with client := outcome.session.client }, calling :: outcome.log)

/-- The service client after it was closed. -/
def close (s : ServiceClient) : ServiceClient :=
  if s.ownsClient then { s with client := s.client.close } else s

end ServiceClient
end ApiDiscovery.Request
