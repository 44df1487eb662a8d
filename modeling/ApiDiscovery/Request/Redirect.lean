import ApiDiscovery.Request.Authenticator
import ApiDiscovery.Request.Header

/-!
# Responses that lead on

A response with one of five statuses may say at which address the answer is to be found. The address
is worked out although it is not followed, so a response that leads to no address is a fault.
-/

namespace ApiDiscovery.Request.Redirect

open ApiDiscovery.Uri (Url)

/-- The statuses of responses that lead on. -/
def statuses : List Nat := [301, 302, 303, 307, 308]

/-- Where a response leads to, if it does. -/
def location? (status : Nat) (headers : Headers) : Option String :=
  match statuses.contains status, headers.values "location" with
  | true, first :: rest => some (Text.joinWith ", " (first :: rest))
  | _, _ => none

/-- An address with a scheme and no host gets the host that the request went to. -/
def withHostOf (sent url : Url) : Except Fault Url :=
  if url.scheme.isEmpty then .ok url
  else do
    checkHostName url
    if url.host.isEmpty then ofAddress (url.withHost sent.host) else return url

/-- An address without a fragment gets that of the request. -/
def withFragmentOf (sent url : Url) : Except Fault Url :=
  let fragment := sent.fragment.getD []
  if fragment.isEmpty || !(url.fragment.getD []).isEmpty then .ok url
  else ofAddress (url.withFragment (Uri.Percent.decode fragment))

/-- The address that a response to a request at `sent` leads to. -/
def target (sent : Url) (location : String) : Except Fault Url := do
  let url ← (Url.ofText location.toList).mapError .redirect
  let url ← withHostOf sent url
  let url ← if url.isAbsolute then pure url else ofResolving (sent.join url.chars)
  let url ← withFragmentOf sent url
  checkHostName url
  return url

end ApiDiscovery.Request.Redirect
