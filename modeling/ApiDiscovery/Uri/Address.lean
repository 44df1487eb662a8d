import ApiDiscovery.Text.Digit
import ApiDiscovery.Text.Pieces

/-!
# Numeric host addresses

Addresses of four decimal numbers below 256 without leading zeros, and addresses of eight
hexadecimal groups of which one run may be left out and the last two may be given in decimal.
-/

namespace ApiDiscovery.Uri.Address

open ApiDiscovery.Text

/-- A digit of ASCII. -/
def isDigit (c : Char) : Bool := '0' ≤ c && c ≤ '9'

/-- The host is four runs of digits with points between them, so it has to be an address. -/
def looksNumeric (host : List Char) : Bool :=
  let parts := pieces (· == '.') host
  parts.length == 4 && parts.all fun part => !part.isEmpty && part.all isDigit

/-- The value of digits, most significant first. -/
def decimalValue (digits : List Char) : Nat :=
  digits.foldl (fun n c => 10 * n + (c.toNat - '0'.toNat)) 0

/-- A number below 256 without a leading zero. -/
def isOctet (s : List Char) : Bool :=
  !s.isEmpty && s.all isDigit && s.length ≤ 3 && (s == ['0'] || s.head? != some '0') &&
    decimalValue s ≤ 255

/-- An address of four numbers. -/
def isFourNumbers (s : List Char) : Bool :=
  let parts := pieces (· == '.') s
  parts.length == 4 && parts.all isOctet

/-- A group of one to four hexadecimal digits. -/
def isGroup (s : List Char) : Bool :=
  !s.isEmpty && s.length ≤ 4 && s.all fun c => (hexValue? c).isSome

/-- The groups of an address, with two groups in place of four numbers at the end; none if what
looks like four numbers is no such address. -/
def groupsOf (s : List Char) : Option (List (List Char)) :=
  let parts := pieces (· == ':') s
  match parts.getLast? with
  | some last =>
    if parts.length < 3 then none
    else if last.contains '.' then
      if isFourNumbers last then some (parts.dropLast ++ [['0'], ['0']]) else none
    else some parts
  | none => none

/-- The groups of an address whose run of zeros may be left out. -/
def areGroups (parts : List (List Char)) : Bool :=
  let inner := (parts.drop 1).dropLast
  match inner.filter List.isEmpty with
  | [] => parts.length == 8 && parts.all isGroup
  | [_] =>
    let before := parts.takeWhile fun p => !p.isEmpty
    let before := if (parts.head?.map List.isEmpty).getD true then [] else before
    let skip := if before.isEmpty then 1 else before.length
    let after := parts.drop (skip + 1)
    let endsOpen := (parts.getLast?.map List.isEmpty).getD true
    let startOk :=
      !(parts.head?.map List.isEmpty).getD true || (inner.head?.map List.isEmpty).getD false
    let endOk := !endsOpen || after.length == 1
    let after := if endsOpen then [] else after
    startOk && endOk && before.length + after.length < 8 && before.all isGroup && after.all isGroup
  | _ => false

/-- An address of hexadecimal groups; a zone may follow a percent sign. -/
def isGroups (s : List Char) : Bool :=
  let (address, zone) := cutFirst (· == '%') s
  let zoneOk := match zone with
    | none => true
    | some z => !z.isEmpty && !z.contains '%'
  zoneOk && !s.contains '/' &&
    match groupsOf address with
    | some parts => parts.length ≤ 9 && areGroups parts
    | none => false

end ApiDiscovery.Uri.Address
