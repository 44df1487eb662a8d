import ApiDiscovery.Text.Pieces

/-!
# White space

The white space of Unicode as the words of a text see it: 29 characters, among them the
information separators U+001C to U+001F and the no-break space.
-/

namespace ApiDiscovery.Text

/-- The character separates words. -/
def isBlank (c : Char) : Bool :=
  let n := c.toNat
  (0x09 ≤ n && n ≤ 0x0d) || (0x1c ≤ n && n ≤ 0x20) || n == 0x85 || n == 0xa0 || n == 0x1680 ||
    (0x2000 ≤ n && n ≤ 0x200a) || n == 0x2028 || n == 0x2029 || n == 0x202f || n == 0x205f ||
    n == 0x3000

/-- The maximal runs without white space, in order. -/
def words (s : List Char) : List (List Char) :=
  (pieces isBlank s).filter fun word => !word.isEmpty

/-- The text without white space at its start. -/
def trimStart (s : List Char) : List Char := s.dropWhile isBlank

/-- The text without white space at its end. -/
def trimEnd (s : List Char) : List Char := (s.reverse.dropWhile isBlank).reverse

/-- The text without white space at its two ends. -/
def trim (s : List Char) : List Char := trimEnd (trimStart s)

/-- The words of a text with one space between neighbours. -/
def collapse (s : String) : String :=
  joinWith " " ((words s.toList).map String.ofList)

end ApiDiscovery.Text
