import ApiDiscovery.Discovery.Service
import ApiDiscovery.Text.Lines

/-!
# Document files

A document file holds JSON in UTF-8. All line endings count as line feeds before the text is read.
-/

namespace ApiDiscovery.Discovery

/-- The value that the file called `file` holds, given its bytes. -/
def readDocument (file : String) (bytes : List UInt8) : Except Fault Json :=
  match Text.Utf8.decode bytes with
  | .error error => .error (.undecodable error)
  | .ok chars =>
    let text := Text.unifyLineEnds chars
    match Json.ofText (String.ofList text) with
    | .ok value => .ok value
    | .error (.hugeInteger digits) => .error (.hugeInteger digits)
    | .error (.malformed what position) =>
      .error (.notJson file (Json.ReadFault.message text (.malformed what position)))

/-- The service that the file called `file` describes. -/
def Service.ofFile (file : String) (bytes : List UInt8) : Except Fault Service := do
  let value ← readDocument file bytes
  Service.ofJson value

end ApiDiscovery.Discovery
