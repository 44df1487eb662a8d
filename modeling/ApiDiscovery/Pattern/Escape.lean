import ApiDiscovery.Pattern.Token
import ApiDiscovery.Text.CharacterNames
import ApiDiscovery.Text.Digit

/-!
# Escapes in patterns

What a backslash and a letter mean, outside and inside a character set. Codes may be given in
hexadecimal, in octal or by the name of a character; outside a set a number is a reference to a
group.
-/

namespace ApiDiscovery.Pattern.Escape

open Parse

/-- A digit of ASCII. -/
def isDigit (c : Char) : Bool := '0' ≤ c && c ≤ '9'

/-- An octal digit. -/
def isOctal (c : Char) : Bool := '0' ≤ c && c ≤ '7'

/-- A hexadecimal digit. -/
def isHex (c : Char) : Bool := (Text.hexValue? c).isSome

/-- A letter of ASCII. -/
def isLetter (c : Char) : Bool := ('a' ≤ c && c ≤ 'z') || ('A' ≤ c && c ≤ 'Z')

/-- The value of digits to a base. -/
def valueOf (base : Nat) (digits : List Char) : Nat :=
  digits.foldl (fun n c => base * n + (Text.hexValue? c).getD 0) 0

/-- The code of an escape of one letter. -/
def controlCode? (c : Char) : Option Nat :=
  match c with
  | 'a' => some 0x07
  | 'b' => some 0x08
  | 'f' => some 0x0c
  | 'n' => some 0x0a
  | 'r' => some 0x0d
  | 't' => some 0x09
  | 'v' => some 0x0b
  | '\\' => some 0x5c
  | _ => none

/-- The class of an escape of one letter. -/
def category? (c : Char) : Option SetItem :=
  match c with
  | 'd' => some (.category false .digit)
  | 'D' => some (.category true .digit)
  | 's' => some (.category false .space)
  | 'S' => some (.category true .space)
  | 'w' => some (.category false .word)
  | 'W' => some (.category true .word)
  | _ => none

/-- The condition of an escape of one letter. -/
def anchor? (c : Char) : Option Anchor :=
  match c with
  | 'A' => some .textStart
  | 'b' => some .boundary
  | 'B' => some .nonBoundary
  | 'Z' => some .textEnd
  | _ => none

/-- An escape that is no escape. -/
def bad {α : Type} (escape : List Char) : Parse α :=
  fail (.badEscape (String.ofList escape)) escape.length

/-- The least number that is too large to be taken for a code at all. -/
def codeBound : Nat := 0x80000000

/-- The code given by exactly `count` hexadecimal digits after the letter `c`. -/
def hexCode (c : Char) (count : Nat) : Parse Nat := do
  let digits ← takeWhile isHex count
  let escape := '\\' :: c :: digits
  if digits.length < count then
    fail (.incompleteEscape (String.ofList escape)) escape.length
  let n := valueOf 16 digits
  if codeBound ≤ n then throw .codeTooLarge
  if 0x10ffff < n then bad escape
  return n

/-- The code of a character given by its name in braces. -/
def namedCode : Parse Nat := do
  if !(← accept '\x7b') then fail .missingBrace
  let n ← name '\x7d' "character name"
  match Text.codeOfName? n with
  | some code => return code
  | none => fail (.undefinedCharacter n) (n.length + 4)

/-- The code of an octal escape; it has at most eight bits. -/
def octalCode (digits : List Char) : Parse Nat := do
  let n := valueOf 8 digits
  let escape := '\\' :: digits
  if 0o377 < n then fail (.octalRange (String.ofList escape)) escape.length
  return n

/-- A reference to a group by number. -/
def reference (digits : List Char) : Parse Node := do
  let index := valueOf 10 digits
  if index < (← groupCount) then
    if !(← isClosed index) then fail .openGroup (digits.length + 1)
    checkLookbehind index
    return .backReference index
  else fail (.invalidReference index) digits.length

/-- The code of an escape by hexadecimal digits or by name, if it is one. -/
def code? (c : Char) : Parse (Option Nat) := do
  match c with
  | 'x' => return some (← hexCode c 2)
  | 'u' => return some (← hexCode c 4)
  | 'U' => return some (← hexCode c 8)
  | 'N' => return some (← namedCode)
  | _ => return none

/-- An escape outside a set: a number that starts with a digit other than zero is a reference
unless it has three octal digits. -/
def node (c : Char) : Parse Node := do
  match anchor? c with
  | some place => return .anchor place
  | none =>
  match category? c with
  | some item => return .single (.set false [item])
  | none =>
  match controlCode? c with
  | some code => return .single (.code code)
  | none =>
  match ← code? c with
  | some code => return .single (.code code)
  | none =>
    if c == '0' then
      return .single (.code (valueOf 8 (← takeWhile isOctal 2)))
    else if isDigit c then
      let second ← takeWhile isDigit 1
      let digits := c :: second
      if second.length == 1 && digits.all isOctal then
        match ← takeWhile isOctal 1 with
        | [] => reference digits
        | third => return .single (.code (← octalCode (digits ++ third)))
      else reference digits
    else if isLetter c then bad ['\\', c]
    else return .single (.code c.toNat)

/-- An escape inside a set. -/
def member (c : Char) : Parse SetItem := do
  match controlCode? c with
  | some code => return .code code
  | none =>
  match category? c with
  | some item => return item
  | none =>
  match ← code? c with
  | some code => return .code code
  | none =>
    if isOctal c then
      let more ← takeWhile isOctal 2
      return .code (← octalCode (c :: more))
    else if isDigit c || isLetter c then bad ['\\', c]
    else return .code c.toNat

end ApiDiscovery.Pattern.Escape
