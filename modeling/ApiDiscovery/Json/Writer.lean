import ApiDiscovery.Json.Value

/-!
# Writing JSON

JSON text in ASCII on one line, with a space after each comma and colon.
-/

namespace ApiDiscovery.Json.Writer

open ApiDiscovery.Text

/-- An escape by a code unit of sixteen bits. -/
def unitEscape (n : Nat) : List Char := '\\' :: 'u' :: hexDigits 4 n

/-- A character of a JSON text. -/
def escapedChar (c : Char) : List Char :=
  if c == '"' || c == '\\' then ['\\', c]
  else if c == '\n' then ['\\', 'n']
  else if c == '\r' then ['\\', 'r']
  else if c == '\t' then ['\\', 't']
  else if c == '\x0c' then ['\\', 'f']
  else if c == '\x08' then ['\\', 'b']
  else if ' ' ≤ c && c ≤ '~' then [c]
  else if c.toNat < 0x10000 then unitEscape c.toNat
  else
    let n := c.toNat - 0x10000
    unitEscape (0xd800 + n / 0x400) ++ unitEscape (0xdc00 + n % 0x400)

/-- A text between double quotes. -/
def stringText (s : String) : String :=
  String.ofList ('"' :: (s.toList.flatMap escapedChar ++ ['"']))

/-- A double; the values without digits have names. -/
def doubleText (x : Double) : String :=
  if x.isNan then "NaN"
  else if x.isFinite then x.toText
  else if x.negative then "-Infinity" else "Infinity"

mutual

/-- The JSON text of a value. -/
def write : Json → String
  | .null => "null"
  | .bool b => if b then "true" else "false"
  | .int n => toString n
  | .double x => doubleText x
  | .str s => stringText s
  | .arr xs => "[" ++ writeItems xs ++ "]"
  | .obj ms => "\x7b" ++ writeMembers ms ++ "\x7d"

/-- The items with commas between them. -/
def writeItems : List Json → String
  | [] => ""
  | [x] => write x
  | x :: rest => write x ++ ", " ++ writeItems rest

/-- The members with commas between them. -/
def writeMembers : List (String × Json) → String
  | [] => ""
  | [(k, v)] => stringText k ++ ": " ++ write v
  | (k, v) :: rest => stringText k ++ ": " ++ write v ++ ", " ++ writeMembers rest

end

end ApiDiscovery.Json.Writer

namespace ApiDiscovery.Json

/-- The value as JSON text. -/
def toText (v : Json) : String := Writer.write v

end ApiDiscovery.Json
