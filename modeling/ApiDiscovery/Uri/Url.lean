import ApiDiscovery.Text.Case
import ApiDiscovery.Text.Integer
import ApiDiscovery.Text.Quoted
import ApiDiscovery.Uri.Address
import ApiDiscovery.Uri.HostLabel
import ApiDiscovery.Uri.Path
import ApiDiscovery.Uri.Percent
import ApiDiscovery.Uri.Reference

/-!
# Addresses in normal form

An address is read into its parts and each part is brought into its normal form: scheme and host in
small letters, a port only where it is not the usual one, a path without relative segments where
there is a place for it to start from, and every part with its foreign characters escaped.
-/

namespace ApiDiscovery.Uri

open ApiDiscovery.Text

/-- An address whose parts are in normal form; no scheme, user information or host is empty text. -/
structure Url where
  scheme : List Char
  userinfo : List Char
  host : List Char
  port : Option Int
  path : List Char
  query : Option (List Char)
  fragment : Option (List Char)
  deriving DecidableEq, Repr

namespace Url

/-! ## What can be wrong with an address -/

/-- The parts that an address can be put together from. -/
inductive Component where
  | scheme
  | authority
  | path
  | query
  | fragment
  deriving DecidableEq, Repr

/-- The name of a part. -/
def Component.name : Component → String
  | .scheme => "scheme"
  | .authority => "authority"
  | .path => "path"
  | .query => "query"
  | .fragment => "fragment"

/-- Why a text is no address. -/
inductive Fault where
  | tooLong
  | componentTooLong (component : Component)
  | componentControl (component : Component) (c : Char) (position : Nat)
  | control (c : Char) (position : Nat)
  | fourNumbers (host : List Char)
  | groups (host : List Char)
  | labels (host : List Char)
  | port (text : List Char)
  | pathAfterAuthority
  | pathOfTwoSlashes
  | pathOfColon
  deriving DecidableEq, Repr

/-- A list of characters between quotes. -/
def quote (s : List Char) : String := String.ofList (quotedChars s)

/-- The words for a fault. -/
def Fault.message : Fault → String
  | .tooLong => "URL too long"
  | .componentTooLong component => "URL component '" ++ component.name ++ "' too long"
  | .componentControl component c position =>
    "Invalid non-printable ASCII character in URL " ++ component.name ++ " component, " ++
      quote [c] ++ " at position " ++ toString position ++ "."
  | .control c position =>
    "Invalid non-printable ASCII character in URL, " ++ quote [c] ++ " at position " ++
      toString position ++ "."
  | .fourNumbers host => "Invalid IPv4 address: " ++ quote host
  | .groups host => "Invalid IPv6 address: " ++ quote host
  | .labels host => "Invalid IDNA hostname: " ++ quote host
  | .port text => "Invalid port: " ++ quote text
  | .pathAfterAuthority => "For absolute URLs, path must be empty or begin with '/'"
  | .pathOfTwoSlashes => "Relative URLs cannot have a path starting with '//'"
  | .pathOfColon => "Relative URLs cannot have a path starting with ':'"

/-! ## Characters that stand for themselves -/

/-- A character of ASCII with a glyph, or the space. -/
def isGraphic (c : Char) : Bool := ' ' ≤ c && c ≤ '~'

/-- The character stands for itself in a query. -/
def keepsInQuery (c : Char) : Bool := isGraphic c && !" \"#<>".toList.contains c

/-- The character stands for itself in a path. -/
def keepsInPath (c : Char) : Bool := keepsInQuery c && !"?`\x7b\x7d".toList.contains c

/-- The character stands for itself in a fragment. -/
def keepsInFragment (c : Char) : Bool := isGraphic c && !" \"<>`".toList.contains c

/-- The character stands for itself in user information. -/
def keepsInUserinfo (c : Char) : Bool := keepsInPath c && !"/;=@[\\]^|".toList.contains c

/-- The character stands for itself in the name of a host. -/
def keepsInHost (c : Char) : Bool :=
  Percent.isUnreserved c || "!$&'()*+,;=\"`\x7b\x7d%|\\".toList.contains c

/-! ## Normal forms of the parts -/

/-- A capital letter of ASCII as a small one. -/
def small (c : Char) : Char := if 'A' ≤ c && c ≤ 'Z' then Char.ofNat (c.toNat + 32) else c

/-- The normal form of a host, without the brackets around groups. -/
def normalHost (host : List Char) : Except Fault (List Char) :=
  if host.isEmpty then .ok []
  else if Address.looksNumeric host then
    if Address.isFourNumbers host then .ok host else .error (.fourNumbers host)
  else if host.head? = some '[' ∧ host.getLast? = some ']' ∧ 2 ≤ host.length then
    let inside := (host.drop 1).dropLast
    if Address.isGroups inside then .ok inside else .error (.groups host)
  else if host.all fun c => c.toNat < 0x80 then
    .ok (Percent.encode keepsInHost (host.map small))
  else
    match HostLabel.encodeName (lowerAfter [] host) with
    | some name => .ok name
    | none => .error (.labels host)

/-- The usual port for a scheme. -/
def usualPort (scheme : List Char) : Option Int :=
  ([("ftp", 21), ("http", 80), ("https", 443), ("ws", 80), ("wss", 443)] :
    List (String × Int)).lookup (String.ofList scheme)

/-- The normal form of a port for a scheme as it was written. -/
def normalPort (scheme port : List Char) : Except Fault (Option Int) :=
  if port.isEmpty then .ok none
  else
    match integer? port with
    | some n => .ok (if usualPort scheme = some n then none else some n)
    | none => .error (.port port)

/-- What is wrong with a path, given whether a scheme or an authority stands before it. -/
def pathFault? (hasScheme hasAuthority : Bool) (path : List Char) : Option Fault :=
  if hasAuthority then
    if path.isEmpty || path.head? = some '/' then none else some .pathAfterAuthority
  else if hasScheme then none
  else if path.take 2 = ['/', '/'] then some .pathOfTwoSlashes
  else if path.head? = some ':' then some .pathOfColon
  else none

/-- The address with these parts. -/
def ofReference (r : Reference) : Except Fault Url :=
  let scheme := r.scheme.getD []
  let authority := Authority.ofText (r.authority.getD [])
  let userinfo := Percent.encode keepsInUserinfo authority.userinfo
  match normalHost authority.host with
  | .error fault => .error fault
  | .ok host =>
    match normalPort scheme authority.port with
    | .error fault => .error fault
    | .ok port =>
      let hasScheme := !scheme.isEmpty
      let hasAuthority := !userinfo.isEmpty || !host.isEmpty || port.isSome
      match pathFault? hasScheme hasAuthority r.path with
      | some fault => .error fault
      | none =>
        -- Relative segments are removed only where there is a place to start from.
        let path := if hasScheme || hasAuthority then Path.normalize r.path else r.path
        .ok {
          scheme := scheme.map small
          userinfo := userinfo
          host := host
          port := port
          path := Percent.encode keepsInPath path
          query := r.query.map (Percent.encode keepsInQuery)
          fragment := r.fragment.map (Percent.encode keepsInFragment) }

/-! ## Reading -/

/-- The longest text that is read as an address or as one of its parts. -/
def maxLength : Nat := 65536

/-- The first control character of ASCII, and how many characters stand before it. -/
def firstControl (position : Nat) : List Char → Option (Char × Nat)
  | [] => none
  | c :: rest =>
    if c.toNat < 0x80 && !isGraphic c then some (c, position) else firstControl (position + 1) rest

/-- The address that a text stands for. -/
def ofText (s : List Char) : Except Fault Url :=
  if maxLength < s.length then .error .tooLong
  else
    match firstControl 0 s with
    | some (c, position) => .error (.control c position)
    | none => ofReference (Reference.ofText s)

/-! ## Writing -/

/-- The authority of an address; a host with a colon stands in brackets. -/
def authority (u : Url) : List Char :=
  (if u.userinfo.isEmpty then [] else u.userinfo ++ ['@']) ++
  (if u.host.contains ':' then '[' :: (u.host ++ [']']) else u.host) ++
  match u.port with
  | some port => ':' :: (toString port).toList
  | none => []

/-- The parts of an address as they are written. -/
def reference (u : Url) : Reference :=
  { scheme := if u.scheme.isEmpty then none else some u.scheme
    authority := if u.authority.isEmpty then none else some u.authority
    path := u.path
    query := u.query
    fragment := u.fragment }

/-- The address as text. -/
def chars (u : Url) : List Char := u.reference.text

/-- `chars` on strings. -/
def text (u : Url) : String := String.ofList u.chars

/-- The path and the query as a request line has them. -/
def target (u : Url) : List Char :=
  (if u.path.isEmpty then ['/'] else u.path) ++ Reference.after ['?'] u.query

/-- The address says by itself where it leads: it has a scheme and a host. -/
def isAbsolute (u : Url) : Bool := !u.scheme.isEmpty && !u.host.isEmpty

/-! ## Changing parts -/

/-- The first part that is longer than a text may be. -/
def longPart? (r : Reference) : Option Component :=
  ([(.scheme, r.scheme), (.authority, r.authority), (.path, some r.path), (.query, r.query),
    (.fragment, r.fragment)] : List (Component × Option (List Char))).findSome? fun part =>
      if maxLength < (part.2.getD []).length then some part.1 else none

/-- The address with these parts, none of which may be longer than a text. -/
def ofParts (r : Reference) : Except Fault Url :=
  match longPart? r with
  | some component => .error (.componentTooLong component)
  | none => ofReference r

/-- The address with another fragment, which may hold any characters but controls of ASCII. -/
def withFragment (u : Url) (fragment : List Char) : Except Fault Url :=
  let r := { u.reference with fragment := some fragment }
  match longPart? r, firstControl 0 fragment with
  | some component, _ => .error (.componentTooLong component)
  | none, some (c, position) => .error (.componentControl .fragment c position)
  | none, none => ofReference r

/-- The address with another host. -/
def withHost (u : Url) (host : List Char) : Except Fault Url :=
  ofParts { u.reference with authority := some ({ u with host := host } : Url).authority }

/-- The address with another query. -/
def withQuery (u : Url) (query : Option (List Char)) : Except Fault Url :=
  ofParts { u.reference with query := query }

end Url
end ApiDiscovery.Uri
