import ApiDiscovery.Text.Pieces

/-!
# Lines

A text has lines in two senses. Reading a file turns each of the three line endings into a
line feed. Indenting a block cuts it at every character that ends a line in Unicode and joins
the lines with line feeds, so those characters are lost.
-/

namespace ApiDiscovery.Text

/-- Each carriage return, with the line feed after it if there is one, becomes a line feed. -/
def unifyLineEnds : List Char → List Char
  | [] => []
  | '\r' :: '\n' :: rest => '\n' :: unifyLineEnds rest
  | '\r' :: rest => '\n' :: unifyLineEnds rest
  | c :: rest => c :: unifyLineEnds rest

/-- The character ends a line: the line feed and its relatives, the information separators
U+001C to U+001E, the next-line control and the two Unicode separators. -/
def endsLine (c : Char) : Bool :=
  let n := c.toNat
  (0x0a ≤ n && n ≤ 0x0d) || (0x1c ≤ n && n ≤ 0x1e) || n == 0x85 || n == 0x2028 || n == 0x2029

/-- The lines of a text without their ends; a carriage return takes a following line feed with
it. Text after the last line end is a line only if it is not empty. -/
def lines : List Char → List (List Char)
  | [] => []
  | '\r' :: '\n' :: rest => [] :: lines rest
  | c :: rest =>
    if endsLine c then [] :: lines rest
    else
      match lines rest with
      | [] => [[c]]
      | first :: others => (c :: first) :: others

/-- The text with every line but the first and the empty ones moved right by `width` spaces.
The text counts as closed by a line feed, which is not written. -/
def indentLines (width : Nat) (s : List Char) : List Char :=
  match lines (s ++ ['\n']) with
  | [] => []
  | first :: others =>
    List.intercalate ['\n'] (first :: others.map fun line =>
      if line.isEmpty then line else List.replicate width ' ' ++ line)

/-- `indentLines` on strings. -/
def indent (width : Nat) (s : String) : String :=
  String.ofList (indentLines width s.toList)

end ApiDiscovery.Text
