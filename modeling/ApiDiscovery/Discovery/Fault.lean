import ApiDiscovery.Json.Reader
import ApiDiscovery.Json.Value
import ApiDiscovery.Pattern.Fault
import ApiDiscovery.Text.Utf8

/-!
# Faults in discovery documents

Why a document does not describe a service, or why something is not found in it. Some causes are no
statement about what a document describes: a value of the wrong shape, a position outside a list,
bytes that are no text, and numbers and patterns beyond the limits of the reader.
-/

namespace ApiDiscovery.Discovery

/-- What is wrong with a document or a question to it. -/
inductive Fault where
  | unknownLocation (parameter : String) (location : Json)
  | badPattern (parameter pattern : String) (fault : Pattern.Fault)
  | noPath (method : String)
  | noBaseUrl (service : String)
  | notAnObject
  | noNameAndVersion
  | noResource (service path : String)
  | noMethod (service resource method : String)
  | unknownReference (reference : Json)
  | notJson (file : String) (reason : String)
  | undecodable (error : Text.Utf8.DecodeError)
  | hugeInteger (digits : Nat)
  | beyondDoubles
  | shape
  | outside
  | patternLimit (fault : Pattern.Fault)

/-- The words for bytes that are no text: where they stand and why. -/
def undecodableText (error : Text.Utf8.DecodeError) : String :=
  let last := error.position + error.bytes.length - 1
  let which :=
    match error.bytes with
    | [byte] =>
      "byte 0x" ++ String.ofList (Text.hexDigits 2 byte.toNat) ++ " in position " ++
        toString error.position
    | _ => "bytes in position " ++ toString error.position ++ "-" ++ toString last
  "'utf-8' codec can't decode " ++ which ++ ": " ++ error.why.message

/-- The words for a fault. -/
def Fault.message : Fault → String
  | unknownLocation parameter location =>
    "parameter " ++ Text.quoted parameter ++ " has unknown location " ++ location.literal
  | badPattern parameter pattern fault =>
    "parameter " ++ Text.quoted parameter ++ " has invalid pattern " ++ Text.quoted pattern ++
      " (" ++ fault.message pattern ++ ")"
  | noPath method => "method " ++ Text.quoted method ++ " has no path"
  | noBaseUrl service => "service " ++ Text.quoted service ++ " has no base url"
  | notAnObject => "discovery document must be a JSON object"
  | noNameAndVersion => "document has no service name and version"
  | noResource service path => service ++ " has no resource " ++ Text.quoted path
  | noMethod service resource method => service ++ " has no method " ++ resource ++ "." ++ method
  | unknownReference reference => "unknown schema reference " ++ reference.literal
  | notJson file reason => file ++ ": not valid JSON (" ++ reason ++ ")"
  | undecodable error => undecodableText error
  | hugeInteger digits => Text.tooManyDigits digits
  | beyondDoubles => "an integer is too large for a double"
  | shape => "a value has the wrong shape"
  | outside => "a position lies outside the list"
  | patternLimit fault => fault.message ""

end ApiDiscovery.Discovery
