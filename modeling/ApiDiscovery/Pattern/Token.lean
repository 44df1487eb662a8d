import ApiDiscovery.Pattern.Fault

/-!
# Tokens of a pattern

A pattern is cut into characters, where a backslash takes the next character with it. The parser
always knows its next token, and a backslash at the very end is a fault as soon as it would become
the next token.
-/

namespace ApiDiscovery.Pattern

/-- A character, a character after a backslash, or a backslash with nothing after it. -/
inductive Token where
  | plain (c : Char)
  | escaped (c : Char)
  | dangling
  deriving DecidableEq, Repr

/-- The characters of a token. -/
def Token.chars : Token → List Char
  | plain c => [c]
  | escaped c => ['\\', c]
  | dangling => ['\\']

/-- The text of a token. -/
def Token.text (t : Token) : String := String.ofList t.chars

/-- The token is this character without a backslash. -/
def Token.isPlain (t : Token) (c : Char) : Bool := t == .plain c

/-- The tokens of a pattern. -/
def tokens : List Char → List Token
  | [] => []
  | ['\\'] => [.dangling]
  | '\\' :: c :: rest => .escaped c :: tokens rest
  | c :: rest => .plain c :: tokens rest

/-- What the parser knows: the tokens from the next one on and their place, the flags of the whole
pattern, the widths of the groups opened so far (none for an open group), the names of groups, the
number of groups when the outermost look-behind began, and the conditions on groups by number. -/
structure ParserState where
  next : List Token
  position : Nat
  length : Nat
  flags : Flags
  widths : List (Option (Nat × Nat))
  names : List (String × Nat)
  lookbehind : Option Nat
  conditions : List (Nat × Nat)

/-- A parsing step. -/
abbrev Parse (α : Type) := StateT ParserState (Except Fault) α

namespace Parse

/-- The next token. -/
def peek : Parse (Option Token) := do return (← get).next.head?

/-- Fails at the place `back` characters before the next token. -/
def fail {α : Type} (reason : Reason) (back : Nat := 0) : Parse α := do
  throw (.misplaced reason ((← get).position - back))

/-- A backslash at the end of the pattern cannot be the next token. -/
def checkNext : Parse Unit := do
  let s ← get
  if s.next.head? == some .dangling then
    throw (.misplaced .danglingEscape (s.length - 1))

/-- Takes the next token. -/
def take : Parse (Option Token) := do
  let s ← get
  match s.next with
  | [] => return none
  | t :: rest =>
    set { s with next := rest, position := s.position + t.chars.length }
    checkNext
    return some t

/-- Takes the next token if it is this character. -/
def accept (c : Char) : Parse Bool := do
  match ← peek with
  | some t =>
    if t.isPlain c then
      let _ ← take
      return true
    else return false
  | none => return false

/-- Takes at most `count` characters that satisfy `p`. -/
def takeWhile (p : Char → Bool) : Nat → Parse (List Char)
  | 0 => return []
  | count + 1 => do
    match ← peek with
    | some (.plain c) =>
      if p c then
        let _ ← take
        return c :: (← takeWhile p count)
      else return []
    | _ => return []

/-- Takes the characters before `terminator` and the terminator itself. -/
def takeUntil (terminator : Char) (what : String) : Nat → List Char → Parse (List Char)
  | 0, read => return read
  | fuel + 1, read => do
    match ← take with
    | none =>
      if read.isEmpty then fail (.missingName what)
      else fail (.unterminatedName terminator) read.length
    | some t =>
      if t.isPlain terminator then
        if read.isEmpty then fail (.missingName what) 1 else return read
      else takeUntil terminator what fuel (read ++ t.chars)

/-- Takes a name up to its terminator. -/
def name (terminator : Char) (what : String) : Parse String := do
  let fuel := (← get).next.length + 1
  return String.ofList (← takeUntil terminator what fuel [])

/-- The number of groups, the whole pattern included. -/
def groupCount : Parse Nat := do return (← get).widths.length

/-- The group is closed. -/
def isClosed (index : Nat) : Parse Bool := do
  return match (← get).widths[index]? with
    | some (some _) => true
    | _ => false

/-- Within a look-behind only groups that were closed before it may be referred to. -/
def checkLookbehind (index : Nat) : Parse Unit := do
  match (← get).lookbehind with
  | none => return
  | some before =>
    if !(← isClosed index) then fail .openGroup
    if before ≤ index then fail .lookbehindGroup

/-- Opens a group and gives its number. -/
def openGroup (groupName : Option String) : Parse Nat := do
  let s ← get
  let index := s.widths.length
  match groupName with
  | none =>
    set { s with widths := s.widths ++ [none] }
    return index
  | some n =>
    match s.names.lookup n with
    | some earlier => fail (.redefinedName n index earlier) (n.length + 1)
    | none =>
      set { s with widths := s.widths ++ [none], names := s.names ++ [(n, index)] }
      return index

/-- Closes a group whose body has the given width. -/
def closeGroup (index : Nat) (width : Nat × Nat) : Parse Unit := do
  modify fun s => { s with widths := s.widths.set index (some width) }

end Parse
end ApiDiscovery.Pattern
