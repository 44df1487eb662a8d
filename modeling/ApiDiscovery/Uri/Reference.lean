import ApiDiscovery.Text.Pieces

/-!
# The parts of an address

An address has up to five parts: `scheme:` first, then `//authority`, a path, `?query` and
`#fragment`. Only the path is always there. Writing the parts of an address one after another gives
the address back.
-/

namespace ApiDiscovery.Uri

open ApiDiscovery.Text

/-- The parts of an address as they are written. -/
structure Reference where
  scheme : Option (List Char)
  authority : Option (List Char)
  path : List Char
  query : Option (List Char)
  fragment : Option (List Char)
  deriving DecidableEq, Repr

namespace Reference

/-! ## Reading -/

/-- A letter of ASCII. -/
def isLetter (c : Char) : Bool := ('a' ≤ c && c ≤ 'z') || ('A' ≤ c && c ≤ 'Z')

/-- The character may stand in a scheme. -/
def isSchemeChar (c : Char) : Bool :=
  isLetter c || ('0' ≤ c && c ≤ '9') || c == '+' || c == '-' || c == '.'

/-- The text is a scheme, or empty. -/
def isScheme : List Char → Bool
  | [] => true
  | c :: rest => isLetter c && rest.all isSchemeChar

/-- The scheme before the first colon, if the text before it is one, and the rest. -/
def cutScheme (s : List Char) : Option (List Char) × List Char :=
  match cutFirst (· == ':') s with
  | (scheme, some rest) => if isScheme scheme then (some scheme, rest) else (none, s)
  | (_, none) => (none, s)

/-- The character starts one of the parts after the authority. -/
def endsAuthority (c : Char) : Bool := c == '/' || c == '?' || c == '#'

/-- The character starts one of the parts after the path. -/
def endsPath (c : Char) : Bool := c == '?' || c == '#'

/-- The authority behind two slashes, if there is one, and the rest. -/
def cutAuthority : List Char → Option (List Char) × List Char
  | '/' :: '/' :: rest =>
    (some (rest.takeWhile fun c => !endsAuthority c), rest.dropWhile fun c => !endsAuthority c)
  | s => (none, s)

/-- The query behind a question mark, if there is one, and the rest. -/
def cutQuery : List Char → Option (List Char) × List Char
  | '?' :: rest => (some (rest.takeWhile (· != '#')), rest.dropWhile (· != '#'))
  | s => (none, s)

/-- The fragment behind a number sign, if there is one. -/
def cutFragment : List Char → Option (List Char)
  | '#' :: rest => some rest
  | _ => none

/-- The parts of an address. -/
def ofText (s : List Char) : Reference :=
  let (scheme, afterScheme) := cutScheme s
  let (authority, afterAuthority) := cutAuthority afterScheme
  let path := afterAuthority.takeWhile fun c => !endsPath c
  let (query, afterQuery) := cutQuery (afterAuthority.dropWhile fun c => !endsPath c)
  ⟨scheme, authority, path, query, cutFragment afterQuery⟩

/-! ## Writing -/

/-- A part with what stands before it, or nothing for a part that is not there. -/
def after (mark : List Char) : Option (List Char) → List Char
  | some part => mark ++ part
  | none => []

/-- The address with these parts. -/
def text (r : Reference) : List Char :=
  (match r.scheme with
    | some scheme => scheme ++ [':']
    | none => []) ++
  after ['/', '/'] r.authority ++ r.path ++ after ['?'] r.query ++ after ['#'] r.fragment

end Reference

/-! ## The authority -/

/-- The parts of an authority as they are written: `userinfo@host:port`. -/
structure Authority where
  userinfo : List Char
  host : List Char
  port : List Char
  deriving DecidableEq, Repr

namespace Authority

/-- The host at the start of a text and the text after it. A host may stand in square brackets;
otherwise it ends at the first colon. -/
def cutHost (s : List Char) : List Char × List Char :=
  match s, cutLast (· == ']') s with
  | '[' :: _, some (inside, rest) => (inside ++ [']'], rest)
  | _, _ => (s.takeWhile (· != ':'), s.dropWhile (· != ':'))

/-- The parts of an authority; the last at sign ends the user information. -/
def ofText (s : List Char) : Authority :=
  let (userinfo, rest) := (cutLast (· == '@') s).getD ([], s)
  let (host, afterHost) := cutHost rest
  ⟨userinfo, host, match afterHost with
    | ':' :: port => port
    | port => port⟩

end Authority
end ApiDiscovery.Uri
