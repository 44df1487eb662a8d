import ApiDiscovery.Log
import ApiDiscovery.Request.Client

/-!
# Sessions

A session is the life of one request: calls change its draft, check it, and send it. It can be sent
once; whatever comes of that, the request counts as sent. Each call has an answer or a fault, and
what it did is told in log records.
-/

namespace ApiDiscovery.Request

/-- A request from its draft to its sending. A session that opens clients of its own reads responses
to their end. -/
structure Session where
  draft : Draft
  authenticator : Authenticator := .anonymous
  executed : Bool := false
  opensClients : Bool := false
  client : Client

/-- A call on a session. -/
inductive Call where
  | name (callName : Json)
  | returning (value : Json)
  | parameters (value : Json)
  | body (bytes : Option (List UInt8))
  | authenticate (authenticator : Authenticator)
  | validate
  | address
  | prepare
  | execute

/-- The answer to a call that succeeds. -/
inductive Answer where
  | session
  | nothing
  | address (url : Uri.Url)
  | prepared (request : Prepared)
  | response (response : Response)

/-- What a call leads to: its answer, the session after it, and what was logged. -/
structure Outcome (α : Type) where
  answer : Except Fault α
  session : Session
  log : List Log.Record

namespace Session

/-- The logger of sessions. -/
def logger : String := "discoclient.requests"

/-- What a fault of the parameters leaves in the log. -/
def validationLog : Fault → List Log.Record
  | .invalid problems callName =>
    let shown := (Json.obj ((problemTexts problems).map fun p => (p.1, .str p.2))).literal
    [⟨.debug, logger, "validation failed for " ++ callName.display ++ ": " ++ shown⟩]
  | _ => []

/-- The log of an outcome that may be a fault of the parameters. -/
def logOf {α : Type} : Except Fault α → List Log.Record
  | .error fault => validationLog fault
  | .ok _ => []

/-- The session with a draft changed by what a value gives. -/
def change {α : Type} (s : Session) (value : Except Fault α) (set : Draft → α → Draft) :
    Outcome Answer :=
  match value with
  | .error fault => ⟨.error fault, s, []⟩
  | .ok value => ⟨.ok .session, { s with draft := set s.draft value }, []⟩

/-- The encoding that a value names. -/
def returnTypeOf (value : Json) : Except Fault ReturnType :=
  match ReturnType.ofJson? value with
  | some returnType => .ok returnType
  | none => .error (.unknownReturnType value)

/-- The record of a request that goes out. -/
def sendingRecord (o : Outbound) : Log.Record :=
  ⟨.debug, logger, ">>> " ++ o.verb.name ++ " " ++ o.url.text⟩

/-- The records of a response that came in. -/
def receivedRecords (callName : Json) (status : Nat) : List Log.Record :=
  ⟨.debug, logger, "<<< " ++ toString status ++ " " ++ callName.display⟩ ::
    if 200 ≤ status ∧ status < 300 then []
    else [⟨.info, logger, callName.display ++ " returned HTTP " ++ toString status⟩]

/-- Sends a prepared request with its credentials. -/
def send (s : Session) (prepared : Prepared) : Outcome Response :=
  match s.authenticator.apply prepared with
  | .error fault => ⟨.error fault, s, []⟩
  | .ok outbound =>
    match s.client.send outbound with
    | (.error fault, client) =>
      ⟨.error fault, { s with client := client }, [sendingRecord outbound]⟩
    | (.ok received, client) =>
      -- The response is told of in the log before its content is read.
      let response := received.body.map fun body =>
        Response.mk received.request received.status body s.opensClients
      ⟨response, { s with client := client },
        sendingRecord outbound :: receivedRecords s.draft.callName received.status⟩

/-- Sends the request of a session that has not sent it yet. -/
def execute (s : Session) : Outcome Response :=
  if s.executed then ⟨.error (.alreadySent s.draft.callName), s, []⟩
  else
    -- From here on the request counts as sent, whatever comes of it.
    let started := { s with executed := true }
    match s.draft.prepare with
    | .error fault => ⟨.error fault, started, validationLog fault⟩
    | .ok prepared => started.send prepared

/-- A call on a session. -/
def call (s : Session) : Call → Outcome Answer
  | .name callName => s.change (.ok callName) fun d name => { d with callName := name }
  | .returning value => s.change (returnTypeOf value) fun d r => { d with returnType := r }
  | .parameters value =>
    s.change (Draft.parametersOf value) fun d parameters => { d with parameters := parameters }
  | .body bytes => s.change (.ok bytes) fun d body => { d with body := body }
  | .authenticate authenticator =>
    ⟨.ok .session, { s with authenticator := authenticator }, []⟩
  | .validate =>
    let outcome := s.draft.validate
    ⟨outcome.map fun _ => .nothing, s, logOf outcome⟩
  | .address => ⟨s.draft.url.map .address, s, []⟩
  | .prepare =>
    let outcome := s.draft.prepare
    ⟨outcome.map .prepared, s, logOf outcome⟩
  | .execute =>
    let outcome := s.execute
    ⟨outcome.answer.map .response, outcome.session, outcome.log⟩

/-- The answers to calls one after another, each with the session after it and its log. -/
def run (s : Session) : List Call → List (Outcome Answer)
  | [] => []
  | next :: rest =>
    let outcome := s.call next
    outcome :: run outcome.session rest

end Session
end ApiDiscovery.Request
