import ApiDiscovery.Uri.AuthorityFault
import ApiDiscovery.Uri.Path
import ApiDiscovery.Uri.Url

/-!
# Resolving a reference

A reference is resolved against a base address: it takes from the base the parts that it does not
have itself, and a path that does not start at the root goes on from the last slash of the base
path. A reference with a scheme of its own, or a base that has no hierarchy, leaves nothing to take.
Both have to have an authority that can be told apart from the rest.
-/

namespace ApiDiscovery.Uri.Resolve

open ApiDiscovery.Text

/-- The schemes whose addresses can be a base. -/
def hierarchical : List String :=
  ["", "ftp", "http", "gopher", "nntp", "imap", "wais", "file", "https", "shttp", "mms",
   "prospero", "rtsp", "rtspu", "sftp", "svn", "svn+ssh", "ws", "wss"]

/-- The schemes whose addresses have an authority, be it an empty one. -/
def withAuthority : List String :=
  ["", "ftp", "http", "gopher", "nntp", "telnet", "imap", "wais", "file", "mms", "https",
   "shttp", "snews", "prospero", "rtsp", "rtspu", "rsync", "svn", "svn+ssh", "sftp", "nfs",
   "git", "git+ssh", "ws", "wss"]

/-- The schemes whose addresses may have parameters after the last segment of the path. -/
def withParameters : List String :=
  ["", "ftp", "hdl", "prospero", "http", "imap", "https", "shttp", "rtsp", "rtspu", "sip",
   "sips", "mms", "sftp", "tel"]

/-- The scheme is one of a list. -/
def isOneOf (schemes : List String) (scheme : List Char) : Bool :=
  schemes.contains (String.ofList scheme)

/-- The parts of an address for resolving: a part that is empty is not told from one that is not
there, and the parameters of the last segment stand apart. -/
structure Parts where
  scheme : List Char
  authority : List Char
  path : List Char
  parameters : List Char
  query : List Char
  fragment : List Char
  deriving DecidableEq, Repr

/-- A path without the parameters of its last segment, and these. -/
def cutParameters (path : List Char) : List Char × List Char :=
  let last := (path.reverse.takeWhile (· != '/')).reverse
  match cutFirst (· == ';') last with
  | (kept, some parameters) => (path.take (path.length - last.length) ++ kept, parameters)
  | (_, none) => (path, [])

/-- The parts of an address; `scheme` stands in for one that is not there. -/
def Parts.ofText (scheme s : List Char) : Parts :=
  let r := Reference.ofText s
  let scheme := (r.scheme.map (·.map Url.small)).getD scheme
  let (path, parameters) :=
    if isOneOf withParameters scheme then cutParameters r.path else (r.path, [])
  ⟨scheme, r.authority.getD [], path, parameters, r.query.getD [], r.fragment.getD []⟩

/-- A part unless it is empty. -/
def given (part : List Char) : Option (List Char) := if part.isEmpty then none else some part

/-- The parts written one after another. -/
def Parts.text (p : Parts) : List Char :=
  let path := p.path ++ Reference.after [';'] (given p.parameters)
  let named := !p.scheme.isEmpty && isOneOf withAuthority p.scheme && path.take 2 != ['/', '/']
  let rooted := if path.isEmpty || path.head? == some '/' then path else '/' :: path
  Reference.text {
    scheme := given p.scheme
    authority := if !p.authority.isEmpty || named then some p.authority else none
    path := if !p.authority.isEmpty || named then rooted else path
    query := given p.query
    fragment := given p.fragment }

/-- The segments of a path that goes on from a base path. -/
def mergedSegments (base path : List Char) : List (List Char) :=
  let above := pieces (· == '/') base
  let above := if above.getLast? == some [] then above else above.dropLast
  match above ++ pieces (· == '/') path with
  | [] => []
  | first :: rest =>
    first :: (rest.dropLast.filter fun segment => !segment.isEmpty) ++ rest.drop (rest.length - 1)

/-- The path a reference with the path `path` leads to. -/
def resolvedPath (base path : List Char) : List Char :=
  let segments :=
    if path.head? = some '/' then pieces (· == '/') path else mergedSegments base path
  let resolved := Path.resolve [] segments ++ if Path.endsRelative segments then [[]] else []
  let joined := List.intercalate ['/'] resolved
  if joined.isEmpty then ['/'] else joined

/-- The address that the parts of a reference lead to from those of a base; the reference is the
answer if it takes nothing from the base. -/
def resolveParts (b r : Parts) (reference : List Char) : List Char :=
  if r.scheme ≠ b.scheme ∨ !isOneOf hierarchical r.scheme then reference
  else if isOneOf withAuthority r.scheme && !r.authority.isEmpty then r.text
  else
    let authority := if isOneOf withAuthority r.scheme then b.authority else r.authority
    -- A reference to the base itself may still bring a query or a fragment.
    if r.path.isEmpty && r.parameters.isEmpty then
      Parts.text {
        r with
        authority := authority
        path := b.path
        parameters := b.parameters
        query := if r.query.isEmpty then b.query else r.query }
    else Parts.text { r with authority := authority, path := resolvedPath b.path r.path }

/-- The address a reference leads to from a base address. -/
def resolve (base reference : List Char) : Except Authority.Fault (List Char) :=
  if base.isEmpty then .ok reference
  else if reference.isEmpty then .ok base
  else
    let b := Parts.ofText [] base
    let r := Parts.ofText b.scheme reference
    match (Authority.fault? b.authority).or (Authority.fault? r.authority) with
    | some fault => .error fault
    | none => .ok (resolveParts b r reference)

end Resolve

/-- Why a reference leads to no address: it or what it leads to is none, or an authority on the way
is faulty. -/
inductive Resolve.Fault where
  | address (fault : Url.Fault)
  | authority (fault : Authority.Fault)
  deriving DecidableEq, Repr

/-- The address a reference leads to from the address `base`; the reference has to be an address
by itself. -/
def Url.join (base : Url) (reference : List Char) : Except Resolve.Fault Url :=
  match Url.ofText reference with
  | .error fault => .error (.address fault)
  | .ok r =>
    match Resolve.resolve base.chars r.chars with
    | .error fault => .error (.authority fault)
    | .ok joined => (Url.ofText joined).mapError .address

end ApiDiscovery.Uri
