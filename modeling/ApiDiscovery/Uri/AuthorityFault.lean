import ApiDiscovery.Text.Quoted
import ApiDiscovery.Uri.Address
import ApiDiscovery.Uri.Reference

/-!
# Authorities of references

Before a reference is resolved its authority is looked at as it is written. Square brackets go in
pairs around a host that is an address of hexadecimal groups or of a later version, with nothing
before them and only a port after them; and no character may stand for one that ends an authority
or separates its parts.
-/

namespace ApiDiscovery.Uri.Authority

open ApiDiscovery.Text

/-- What is wrong with the authority of a reference. -/
inductive Fault where
  | brackets
  | laterVersion
  | noAddress (host : List Char)
  | fourNumbers
  | hiddenMark (authority : List Char)
  deriving DecidableEq, Repr

/-- The words for a fault. -/
def Fault.message : Fault → String
  | brackets => "Invalid IPv6 URL"
  | laterVersion => "IPvFuture address is invalid"
  | noAddress host =>
    String.ofList (quotedChars host) ++ " does not appear to be an IPv4 or IPv6 address"
  | fourNumbers => "An IPv4 address cannot be in brackets"
  | hiddenMark authority =>
    "netloc '" ++ String.ofList authority ++
      "' contains invalid characters under NFKC normalization"

/-- The text after the letter of a later version: its number in hexadecimal, a point, and more. -/
def isLaterVersion (s : List Char) : Bool :=
  match cutFirst (· == '.') s with
  | (version, some (_ :: _)) => !version.isEmpty && version.all fun c => (hexValue? c).isSome
  | _ => false

/-- What is wrong with a host in brackets. -/
def bracketedFault? (host : List Char) : Option Fault :=
  match host with
  | 'v' :: version => if isLaterVersion version then none else some .laterVersion
  | _ =>
    if Address.isFourNumbers host then some .fourNumbers
    else if Address.isGroups host then none
    else some (.noAddress host)

/-- What is wrong with the brackets of an authority. -/
def bracketFault? (authority : List Char) : Option Fault :=
  let opens := authority.contains '['
  let closes := authority.contains ']'
  if opens != closes then some .brackets
  else if !opens then none
  else
    let place := ((cutLast (· == '@') authority).map Prod.snd).getD authority
    match cutFirst (· == '[') place with
    | (before, some inside) =>
      let (host, after) := cutFirst (· == ']') inside
      let rest := after.getD []
      if !before.isEmpty || !(rest.isEmpty || rest.head? == some ':') then some .brackets
      else bracketedFault? host
    | (_, none) => bracketedFault? (cutFirst (· == ':') place).1

/-- The characters whose compatible form has one of the marks around and in an authority. -/
def hidesMark (c : Char) : Bool :=
  ("\u2047\u2048\u2049\u2100\u2101\u2105\u2106\u2a74\ufe13\ufe16\ufe55\ufe56\ufe5f\ufe6b" ++
    "\uff03\uff0f\uff1a\uff1f\uff20").toList.contains c

/-- What is wrong with an authority, if anything is. -/
def fault? (authority : List Char) : Option Fault :=
  match bracketFault? authority with
  | some fault => some fault
  | none => if authority.any hidesMark then some (.hiddenMark authority) else none

end ApiDiscovery.Uri.Authority
