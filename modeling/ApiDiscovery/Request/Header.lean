import ApiDiscovery.Compression.Frame
import ApiDiscovery.Json.Value
import ApiDiscovery.Request.Fault
import ApiDiscovery.Text.Blank
import ApiDiscovery.Text.Pieces

/-!
# Headers of responses

A response says by its headers where it leads on to and how its content is encoded. The case of a
name does not count, and a header may occur several times.
-/

namespace ApiDiscovery.Request

/-- The headers of a response. -/
abbrev Headers := List (String × String)

namespace Headers

/-- The text has characters of ASCII only. -/
def isAscii (s : String) : Bool := s.toList.all fun c => c.toNat < 0x80

/-- The headers that an object gives; names and values are texts in ASCII. -/
def ofMembers : Json.Members → Except Fault Headers
  | [] => .ok []
  | (name, .str value) :: rest =>
    if isAscii name && isAscii value then (ofMembers rest).map ((name, value) :: ·)
    else .error .notAscii
  | (name, _) :: _ => if isAscii name then .error .shape else .error .notAscii

/-- The values under a name, which is given in small letters. -/
def values (headers : Headers) (name : String) : List String :=
  headers.filterMap fun (other, value) =>
    if other.toList.map Uri.Url.small = name.toList then some value else none

end Headers

/-! ## Encoded content -/

/-- How content is encoded. -/
inductive Coding where
  | identity
  | gzip
  | deflate
  deriving DecidableEq, Repr

namespace Coding

/-- The encoding with this name. -/
def ofName? (name : List Char) : Option Coding :=
  if name = "identity".toList then some identity
  else if name = "gzip".toList then some gzip
  else if name = "deflate".toList then some deflate
  else none

/-- The content that encoded content stands for. -/
def decode? : Coding → List UInt8 → Option (List UInt8)
  | identity, bytes => some bytes
  | gzip, bytes => Compression.fileBytes? bytes
  | deflate, bytes => Compression.deflatedBytes? bytes

/-- The encodings that headers name, in the order they were applied in; unknown names are passed
over. -/
def ofHeaders (headers : Headers) : List Coding :=
  (headers.values "content-encoding").flatMap fun value =>
    (Text.pieces (· == ',') value.toList).filterMap fun name =>
      ofName? ((Text.trim name).map Uri.Url.small)

/-- The content before all encodings were applied. -/
def decodeAll? (codings : List Coding) (bytes : List UInt8) : Option (List UInt8) :=
  codings.reverse.foldlM (fun bytes coding => coding.decode? bytes) bytes

end Coding
end ApiDiscovery.Request
