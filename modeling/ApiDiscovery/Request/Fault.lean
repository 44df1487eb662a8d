import ApiDiscovery.Discovery.Fault
import ApiDiscovery.Ordered
import ApiDiscovery.Request.ReturnType
import ApiDiscovery.Uri.Resolve

/-!
# Faults in requests

What can be wrong with the parameters of a request, and why a request is not built or not sent.
-/

namespace ApiDiscovery.Request

/-- What is wrong with one parameter. -/
inductive Problem where
  | unknown
  | missing
  | otherEncoding (asked : ReturnType)
  | unreadablePattern (pattern : String) (fault : Pattern.Fault)
  | mismatch (value pattern : String)
  | noPlaceholderValue

/-- The words for a problem. -/
def Problem.message : Problem → String
  | unknown => "unknown parameter"
  | missing => "required parameter is missing"
  | otherEncoding asked => "conflicts with returning(" ++ Text.quoted asked.name ++ ")"
  | unreadablePattern pattern fault =>
    "pattern " ++ Text.quoted pattern ++ " is not a valid regular expression (" ++
      fault.message pattern ++ ")"
  | mismatch value pattern =>
    "value " ++ Text.quoted value ++ " does not match " ++ Text.quoted pattern
  | noPlaceholderValue => "no value for path placeholder"

/-- The problems of the parameters in words. -/
def problemTexts (problems : Ordered Problem) : Ordered String :=
  problems.map fun p => (p.1, p.2.message)

/-- The words for parameters with problems in a call, which may have a name. -/
def invalidMessage (problems : Ordered String) (callName : Json) : String :=
  let details := Text.joinWith "; " (problems.map fun p => p.1 ++ ": " ++ p.2)
  let call := if callName.isGiven then " for " ++ callName.display else ""
  "invalid parameters" ++ call ++ " (" ++ details ++ ")"

/-- Why a request is not built or not sent. -/
inductive Fault where
  | invalid (problems : Ordered Problem) (callName : Json)
  | alreadySent (callName : Json)
  | unsupportedVerb (verb : Json)
  | unknownReturnType (value : Json)
  | noValue (name : String)
  | address (fault : Uri.Url.Fault)
  | authority (fault : Uri.Authority.Fault)
  | hostName (fault : Uri.HostLabel.Fault)
  | notAscii
  | noScheme (url : String)
  | document (fault : Discovery.Fault)
  | noCredentials
  | clientClosed
  | transport (kind message : String)
  | redirect (fault : Uri.Url.Fault)
  | broken
  | undecodable (error : Text.Utf8.DecodeError)

/-- The words for a fault. -/
def Fault.message : Fault → String
  | invalid problems callName => invalidMessage (problemTexts problems) callName
  | alreadySent callName => callName.display ++ " has already been executed"
  | unsupportedVerb verb => "unsupported HTTP method: " ++ verb.literal
  | unknownReturnType value => value.literal ++ " is not a valid ReturnType"
  | noValue name => Text.quoted name
  | address fault => fault.message
  | authority fault => fault.message
  | hostName _ => "the name of the host stands for none"
  | notAscii => "the text has characters that are not in ASCII"
  | noScheme url => "unknown url type: " ++ Text.quoted url
  | document fault => fault.message
  | noCredentials => "the authenticator has no credentials"
  | clientClosed => "the client is closed"
  | transport _ message => message
  | redirect fault => "Invalid URL in location header: " ++ fault.message ++ "."
  | broken => "the body is not encoded as it says"
  | undecodable error => Discovery.undecodableText error

/-- A value of the wrong shape. -/
def Fault.shape : Fault := .document .shape

/-- An outcome of the document model as one of a request. -/
def ofDiscovery {α : Type} (outcome : Except Discovery.Fault α) : Except Fault α :=
  outcome.mapError .document

/-- An outcome of reading an address as one of a request. -/
def ofAddress {α : Type} (outcome : Except Uri.Url.Fault α) : Except Fault α :=
  outcome.mapError .address

/-- The name of a host in letters of ASCII has to stand for one. -/
def checkHostName (url : Uri.Url) : Except Fault Unit :=
  match Uri.HostLabel.nameFault? url.host with
  | some fault => .error (.hostName fault)
  | none => .ok ()

/-- An outcome of resolving a reference as one of a request. -/
def ofResolving {α : Type} (outcome : Except Uri.Resolve.Fault α) : Except Fault α :=
  outcome.mapError fun fault =>
    match fault with
    | .address fault => .address fault
    | .authority fault => .authority fault

end ApiDiscovery.Request
