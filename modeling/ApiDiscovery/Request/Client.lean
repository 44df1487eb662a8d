import ApiDiscovery.Request.Redirect
import ApiDiscovery.Text.Base64

/-!
# Clients

A client sends requests over a transport, which answers each with a response or a failure. The
answers are given beforehand: each request gets the next one, and the last one serves all further
requests.
-/

namespace ApiDiscovery.Request

/-- What the transport answers. -/
inductive Reply where
  | response (status : Nat) (headers : Json.Members) (content : List UInt8)
  | failure (kind message : String)

/-- A client: the answers still to come, the requests sent so far, and whether it is open. -/
structure Client where
  replies : List Reply
  sent : List Outbound := []
  isOpen : Bool := true

/-- A response as it comes in, with its content still to be read. -/
structure Received where
  request : Outbound
  status : Nat
  headers : Headers
  content : List UInt8

/-- The body of a response: its content as text, once it is decoded. -/
def Received.body (r : Received) : Except Fault String :=
  match Coding.decodeAll? (Coding.ofHeaders r.headers) r.content with
  | none => .error .broken
  | some bytes =>
    match Text.Utf8.decode bytes with
    | .ok text => .ok (String.ofList text)
    | .error why => .error (.undecodable why)

/-- A response as it is handed out; `closed` says that it was read to its end before. -/
structure Response where
  request : Outbound
  status : Nat
  body : String
  closed : Bool
  deriving DecidableEq

namespace Client

/-- The answer of the transport when none was given. -/
def standardReply : Reply :=
  .response 200 [] (Text.Utf8.encode "\x7b\"ok\": true\x7d".toList)

/-- The next answer and those after it. -/
def nextReply : List Reply → Reply × List Reply
  | [] => (standardReply, [])
  | [last] => (last, [last])
  | next :: rest => (next, rest)

/-- The authorization that user information in an address stands for. -/
def basicAuthorization (userinfo : List Char) : Option String :=
  let (user, password) := Text.cutFirst (· == ':') userinfo
  let user := Uri.Percent.decode user
  let password := Uri.Percent.decode (password.getD [])
  if user.isEmpty && password.isEmpty then none
  else
    let bytes := Text.Utf8.encode (user ++ ':' :: password)
    some ("Basic " ++ String.ofList (Text.Base64.encode bytes))

/-- The request as the transport gets it: user information in the address is the authorization. -/
def onWire (outbound : Outbound) : Outbound :=
  match basicAuthorization outbound.url.userinfo with
  | some authorization => { outbound with authorization := some authorization }
  | none => outbound

/-- Takes a response. The address it was asked for at has to have a scheme and an authority that is
told apart, and an address that the response leads on to has to be one. -/
def receive (request : Outbound) (status : Nat) (members : Json.Members) (content : List UInt8) :
    Except Fault Received := do
  let headers ← Headers.ofMembers members
  if request.url.scheme.isEmpty then throw (.noScheme request.url.text)
  match Uri.Authority.fault? request.url.authority with
  | some fault => throw (.authority fault)
  | none =>
    match Redirect.location? status headers with
    | some location => let _ ← Redirect.target request.url location
    | none => pure ()
    return ⟨request, status, headers, content⟩

/-- Sends a request. -/
def send (c : Client) (outbound : Outbound) : Except Fault Received × Client :=
  if !c.isOpen then (.error .clientClosed, c)
  else
    let request := onWire outbound
    let (reply, replies) := nextReply c.replies
    let after := { c with replies := replies, sent := c.sent ++ [request] }
    match reply with
    | .failure kind message => (.error (.transport kind message), after)
    | .response status headers content => (receive request status headers content, after)

/-- The client after it was closed. -/
def close (c : Client) : Client := { c with isOpen := false }

end Client
end ApiDiscovery.Request
