import ApiDiscovery.Json.Value
import ApiDiscovery.Text.Blank
import ApiDiscovery.Text.Lines

/-!
# Literals over several lines

A value that does not fit on a line of 100 characters is laid out with one item or member per
line, each below the one before it. A text that does not fit is cut into several quoted texts,
first at its line ends and then between words, and reading them one after the other gives the
text back.
-/

namespace ApiDiscovery.Json.Layout

open ApiDiscovery.Text

/-- The number of characters a line may have. -/
def lineWidth : Nat := 100

/-- The lines of a text with their ends. -/
def keptLines : List Char → List (List Char)
  | [] => []
  | '\r' :: '\n' :: rest => ['\r', '\n'] :: keptLines rest
  | c :: rest =>
    if endsLine c then [c] :: keptLines rest
    else
      match keptLines rest with
      | [] => [[c]]
      | first :: others => (c :: first) :: others

/-- The text starts with a character that is no white space. -/
def startsWord : List Char → Bool
  | [] => false
  | c :: _ => !isBlank c

/-- The words of a line, each with the white space after it; white space at the start of the line
is a part of its own. -/
def spacedWords : List Char → List (List Char)
  | [] => []
  | c :: rest =>
    match spacedWords rest with
    | [] => [[c]]
    | part :: others =>
      if isBlank c && startsWord part then [c] :: part :: others else (c :: part) :: others

/-- The quoted text fits on a line after `indent` characters and before `reserve` more. -/
def fits (indent reserve : Nat) (s : List Char) : Bool :=
  (quotedChars s).length + indent + reserve ≤ lineWidth

/-- Gathers words into runs that fit, starting with the run `current`. The last run of the last
line leaves room for the `allowance` characters that follow the text. -/
def gather (indent allowance : Nat) (lastLine : Bool) (current : List Char) :
    List (List Char) → List (List Char)
  | [] => if current.isEmpty then [] else [current]
  | part :: rest =>
    let candidate := current ++ part
    let reserve := if rest.isEmpty && lastLine then allowance else 0
    if fits indent reserve candidate then gather indent allowance lastLine candidate rest
    -- A word that does not fit by itself is a run all the same.
    else if current.isEmpty then gather indent allowance lastLine part rest
    else current :: gather indent allowance lastLine part rest

/-- The parts a text is cut into, one for each line of the layout. -/
def chunks (indent allowance : Nat) : List (List Char) → List (List Char)
  | [] => []
  | line :: rest =>
    let reserve := if rest.isEmpty then allowance else 0
    (if fits indent reserve line then [line]
      else gather indent allowance rest.isEmpty [] (spacedWords line)) ++
      chunks indent allowance rest

/-- A line end and the indentation of the next line. -/
def newLine (indent : Nat) : String := String.ofList ('\n' :: List.replicate indent ' ')

/-- A text that does not fit on one line. A text that is the whole value stands in parentheses
unless it cannot be cut. -/
def stringLayout (whole : Bool) (indent allowance : Nat) (s : String) : String :=
  let shift := if whole then 1 else 0
  let parts := chunks (indent + shift) (allowance + shift) (keptLines s.toList)
  match parts with
  | [] => quoted s
  | [_] => quoted s
  | _ =>
    let texts := parts.map fun p => String.ofList (quotedChars p)
    let body := joinWith (newLine (indent + shift)) texts
    if whole then "(" ++ body ++ ")" else body

mutual

/-- The literal of a value that starts after `indent` characters and is followed by `allowance`
more on its last line. -/
def layout (whole : Bool) (indent allowance : Nat) : Json → String
  | .obj ms =>
    let line := literal (.obj ms)
    if line.length + indent + allowance ≤ lineWidth then line
    else "\x7b" ++ memberLayout (indent + 1) (allowance + 1) ms ++ "\x7d"
  | .arr xs =>
    let line := literal (.arr xs)
    if line.length + indent + allowance ≤ lineWidth then line
    else "[" ++ itemLayout (indent + 1) (allowance + 1) xs ++ "]"
  | .str s =>
    let line := quoted s
    if line.length + indent + allowance ≤ lineWidth then line
    else stringLayout whole indent allowance s
  | v => literal v

/-- The items of an array, one below the other. -/
def itemLayout (indent allowance : Nat) : List Json → String
  | [] => ""
  | [x] => layout false indent allowance x
  | x :: rest =>
    layout false indent 1 x ++ "," ++ newLine indent ++ itemLayout indent allowance rest

/-- The members of an object, one below the other. -/
def memberLayout (indent allowance : Nat) : List (String × Json) → String
  | [] => ""
  | [(k, v)] =>
    let name := quoted k
    name ++ ": " ++ layout false (indent + name.length + 2) allowance v
  | (k, v) :: rest =>
    let name := quoted k
    name ++ ": " ++ layout false (indent + name.length + 2) 1 v ++ "," ++ newLine indent ++
      memberLayout indent allowance rest

end

end ApiDiscovery.Json.Layout

namespace ApiDiscovery.Json

/-- The literal of a value, over several lines if it does not fit on one. -/
def sourceLiteral (v : Json) : String := Layout.layout true 0 0 v

end ApiDiscovery.Json
