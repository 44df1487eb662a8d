import ApiDiscovery.Uri.Percent
import ApiDiscovery.Text.Pieces

/-!
# Query strings

A query is a list of name and value pairs, written as `name=value` with `&` between the pairs
and spaces as `+`. Reading gathers the pairs of one name at the place of the first of them, so
a query read and written again is read the same way.
-/

namespace ApiDiscovery.Uri.Query

open ApiDiscovery.Text

/-- Pairs of a name and a value, in order. -/
abbrev Pairs := List (String × String)

/-! ## Reading -/

/-- The text with each plus sign as a space. -/
def plusToSpace (s : List Char) : List Char := s.map fun c => if c == '+' then ' ' else c

/-- A name or a value as it was before it was written. -/
def component (s : List Char) : String := String.ofList (Percent.decode (plusToSpace s))

/-- The pair a piece of a query stands for; a piece without an equals sign has an empty value. -/
def pair (piece : List Char) : String × String :=
  let (name, value) := cutFirst (· == '=') piece
  (component name, component (value.getD []))

/-- The pairs of a query in the order in which they stand. -/
def pairsInOrder (query : List Char) : Pairs :=
  ((pieces (· == '&') query).filter fun piece => !piece.isEmpty).map pair

/-- The names in the order of their first occurrences. -/
def distinct : List String → List String
  | [] => []
  | name :: rest => name :: (distinct rest).filter fun other => other ≠ name

/-- The pairs of one name. -/
def withName (name : String) (pairs : Pairs) : Pairs := pairs.filter fun p => p.1 = name

/-- The pairs with those of one name gathered at the place of the first of them. -/
def gather (pairs : Pairs) : Pairs :=
  (distinct (pairs.map Prod.fst)).flatMap fun name => withName name pairs

/-- The pairs of a query, gathered by name. -/
def parse (query : String) : Pairs := gather (pairsInOrder query.toList)

/-! ## Writing -/

/-- A name or a value as it stands in a query. -/
def encodeComponent (s : String) : List Char :=
  (Percent.encode (fun c => Percent.isUnreserved c || c == ' ') s.toList).map fun c =>
    if c == ' ' then '+' else c

/-- A pair as it stands in a query. -/
def pairText (p : String × String) : List Char :=
  encodeComponent p.1 ++ '=' :: encodeComponent p.2

/-- The pairs as a query. -/
def build (pairs : Pairs) : String :=
  String.ofList (List.intercalate ['&'] (pairs.map pairText))

/-! ## Parameters -/

/-- The pairs with only the last value of each name, at the place of the first. -/
def lastOfEach (pairs : Pairs) : Pairs :=
  (distinct (pairs.map Prod.fst)).filterMap fun name => (withName name pairs).getLast?

/-- The parameters that a query names; question marks at its start do not count, and the last
value of a name wins. -/
def toParameters (query : String) : Pairs :=
  lastOfEach (pairsInOrder (query.toList.dropWhile (· == '?')))

/-- The query that names these parameters. -/
def ofParameters (parameters : Pairs) : String := build (gather parameters)

/-- The pairs with all values of `name` replaced by one at the place of the first, or with the
pair added at the end. -/
def set (name value : String) (pairs : Pairs) : Pairs :=
  match pairs with
  | [] => [(name, value)]
  | (n, v) :: rest =>
    if n = name then (name, value) :: rest.filter fun p => p.1 ≠ name
    else (n, v) :: set name value rest

end ApiDiscovery.Uri.Query
