/-!
# Documentation texts

A documentation text stands between triple quotes in the generated module. Backslashes are doubled,
each quote of a run of three gets a backslash, and a quote at the end of the result gets one too.
-/

namespace ApiDiscovery.Source

/-- Backslashes doubled and each run of three quotes escaped. -/
def escapeTriples : List Char → List Char
  | [] => []
  | '"' :: '"' :: '"' :: rest => '\\' :: '"' :: '\\' :: '"' :: '\\' :: '"' :: escapeTriples rest
  | c :: rest => if c = '\\' then '\\' :: '\\' :: escapeTriples rest else c :: escapeTriples rest

/-- The text with a quote at its end escaped. -/
def escapeLast : List Char → List Char
  | [] => []
  | [c] => if c = '"' then ['\\', '"'] else [c]
  | c :: rest => c :: escapeLast rest

/-- A text as it stands between triple quotes. -/
def docstringChars (s : List Char) : List Char := escapeLast (escapeTriples s)

/-- `docstringChars` on strings. -/
def docstring (s : String) : String := String.ofList (docstringChars s.toList)

end ApiDiscovery.Source
