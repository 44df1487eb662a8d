import ApiDiscovery.Request.Draft

/-!
# Credentials

An authenticator puts credentials on a prepared request: none, a key as a parameter of the query, or
a token in a header. The bare authenticator has no credentials to put.
-/

namespace ApiDiscovery.Request

/-- A request as it goes out. -/
structure Outbound where
  verb : Verb
  url : Uri.Url
  contentType : String
  authorization : Option String
  content : Option (List UInt8)
  deriving DecidableEq

/-- How a request gets its credentials. -/
inductive Authenticator where
  | anonymous
  | bare
  | apiKey (key parameter : String)
  | bearer (token : String)
  deriving DecidableEq, Repr

/-- The address as a client without a base address sends it: one that is not absolute counts from
the root, and nothing but path and query is left of it. -/
def clientUrl (url : Uri.Url) : Except Uri.Url.Fault Uri.Url :=
  if url.isAbsolute then .ok url
  else
    let target := '/' :: url.target.dropWhile (· == '/')
    let (path, query) := Text.cutFirst (· == '?') target
    Uri.Url.ofParts ⟨none, none, path, query, none⟩

/-- The address with the only value of a parameter of the query set. -/
def withParameter (url : Uri.Url) (name value : String) : Except Uri.Url.Fault Uri.Url :=
  let pairs := Uri.Query.parse (String.ofList (url.query.getD []))
  url.withQuery (some (Uri.Query.build (Uri.Query.set name value pairs)).toList)

/-- A request tells its host in letters of ASCII, and a name in them has to stand for one. -/
def checkHost (url : Uri.Url) : Except Fault Unit := do
  checkHostName url
  if url.host.all fun c => c.toNat < 0x80 then return () else throw .notAscii

/-- The request with its credentials. -/
def Authenticator.apply (a : Authenticator) (p : Prepared) : Except Fault Outbound := do
  let url ← ofAddress (clientUrl p.url)
  checkHost url
  let outbound : Outbound := ⟨p.verb, url, p.contentType, none, p.content⟩
  match a with
  | anonymous => return outbound
  | bare => .error .noCredentials
  | apiKey key parameter =>
    let url ← ofAddress (withParameter url parameter key)
    return { outbound with url := url }
  | bearer token => return { outbound with authorization := some ("Bearer " ++ token) }

end ApiDiscovery.Request
