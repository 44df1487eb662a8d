import ApiDiscovery.Text.Blank
import ApiDiscovery.Text.Case
import ApiDiscovery.Text.Digit

/-!
# Identifiers from document names

Names in a discovery document are free text. A name becomes an identifier in lower case with
underscores between its words, and a class name with each word capitalised. Both are built from
the same words, so names with equal identifiers have equal class names.
-/

namespace ApiDiscovery.Naming

open ApiDiscovery.Text

/-! ## Words of mixed-case names -/

/-- A capital letter of ASCII. -/
def isCapital (c : Char) : Bool := 'A' ≤ c && c ≤ 'Z'

/-- A small letter of ASCII. -/
def isSmall (c : Char) : Bool := 'a' ≤ c && c ≤ 'z'

/-- The list starts with a capital followed by a small letter. -/
def startsCapitalised : List Char → Bool
  | a :: b :: _ => isCapital a && isSmall b
  | _ => false

/-- Puts an underscore before the last capital of a run of capitals that a small letter follows:
`HTTPServer` becomes `HTTP_Server`. -/
def splitAcronyms : List Char → List Char
  | [] => []
  | c :: rest =>
    if isCapital c && startsCapitalised rest then c :: '_' :: splitAcronyms rest
    else c :: splitAcronyms rest

/-- Puts an underscore between a small letter or a decimal digit and a capital after it. -/
def splitHumps : List Char → List Char
  | [] => []
  | [c] => [c]
  | a :: b :: rest =>
    if (isSmall a || isDecimalDigit a) && isCapital b then a :: '_' :: splitHumps (b :: rest)
    else a :: splitHumps (b :: rest)

/-- A mixed-case name in lower case with underscores between its words. -/
def snakeChars (name : List Char) : List Char :=
  lowerAfter [] (splitHumps (splitAcronyms name))

/-- `snakeChars` on strings. -/
def snake (name : String) : String := String.ofList (snakeChars name.toList)

/-! ## Sanitised names -/

/-- The character separates words of a name. -/
def isWordBreak (c : Char) : Bool :=
  c == '.' || c == '-' || c == '@' || c == '/' || isBlank c

/-- The character may stand in a sanitised name. -/
def isNameChar (c : Char) : Bool :=
  isSmall c || ('0' ≤ c && c ≤ '9') || c == '_'

/-- A lower-case name with its separators as underscores and all other characters dropped. -/
def nameChars (lowered : List Char) : List Char :=
  (lowered.map fun c => if isWordBreak c then '_' else c).filter isNameChar

/-- The non-empty parts of a name between its underscores. -/
def nameWords (name : String) : List (List Char) :=
  (pieces (· == '_') (nameChars (snakeChars name.toList))).filter fun word => !word.isEmpty

/-- The list starts with a digit of ASCII. -/
def startsWithDigit : List Char → Bool
  | [] => false
  | c :: _ => '0' ≤ c && c ≤ '9'

/-- Words joined by single underscores; a lone underscore stands for no words, and one stands
before a digit at the start. -/
def joinWords (words : List (List Char)) : List Char :=
  let joined := List.intercalate ['_'] words
  if joined.isEmpty then ['_']
  else if startsWithDigit joined then '_' :: joined
  else joined

/-- The words of a name joined by underscores. -/
def sanitize (name : String) : String := String.ofList (joinWords (nameWords name))

/-- The words that the generated language keeps for itself. -/
def keywords : List String :=
  ["False", "None", "True", "and", "as", "assert", "async", "await", "break", "class",
   "continue", "def", "del", "elif", "else", "except", "finally", "for", "from", "global",
   "if", "import", "in", "is", "lambda", "nonlocal", "not", "or", "pass", "raise", "return",
   "try", "while", "with", "yield"]

/-- The name with an underscore after it if it is one of the given words. -/
def avoid (taken : List String) (name : String) : String :=
  if taken.contains name then name ++ "_" else name

/-- The identifier for a name, never a keyword. -/
def identifier (name : String) : String := avoid keywords (sanitize name)

/-- The names a generated method body uses that no argument may have by itself. -/
def reservedLocals : List String := ["self", "body", "kwargs", "parameters"]

/-- The identifier for a parameter, never a keyword and never one of the reserved locals. -/
def argument (name : String) : String := avoid reservedLocals (identifier name)

/-! ## Class names -/

/-- A small letter of ASCII as a capital; every other character as it is. -/
def capital (c : Char) : Char := if isSmall c then Char.ofNat (c.toNat - 32) else c

/-- A word with its first letter as a capital. -/
def capitalise : List Char → List Char
  | [] => []
  | c :: rest => capital c :: rest

/-- The words of a name capitalised and joined, with an underscore before a digit at the start or
for no words at all. -/
def classChars (words : List (List Char)) : List Char :=
  let joined := words.flatMap capitalise
  if joined.isEmpty || startsWithDigit joined then '_' :: joined else joined

/-- The class name for a name, with a suffix. -/
def className (name suffix : String) : String :=
  String.ofList (classChars (nameWords name)) ++ suffix

/-- The class name for the resource at a dotted path. -/
def resourceClass (path : String) : String :=
  className (joinWith "_" (splitAt '.' path)) "Resource"

/-- The class name for a service. -/
def serviceClass (name : String) : String := className name "Service"

/-- The name of the generated module for a service and its version. -/
def moduleName (name version : String) : String :=
  identifier (joinWith "_" (splitAt '.' (name ++ "_" ++ version)))

/-- The name of the attribute behind a property. -/
def backingField (name : String) : String := "_" ++ name

end ApiDiscovery.Naming
