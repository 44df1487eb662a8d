import ApiDiscovery.Json.Value
import ApiDiscovery.Text.Lines

/-!
# Reading literals

What a literal in source text stands for (`read`): dictionaries, lists, numbers, the names of the
truth values and of nothing, and quoted texts with escapes. Two machines read it. The first goes
through the characters and collects tokens (`scan`); quoted texts next to each other become one, and
a line may end inside brackets only. The second goes through the tokens with a stack of the values
that are not complete (`build`).

A literal that is read stands for the value that is read. Not every literal is: names other than the
three, numbers in other bases, commas before a closing bracket, other escapes and quotes next to
each other are refused.
-/

namespace ApiDiscovery.Literal

open ApiDiscovery.Text (hexValue? endsLine cutFirst)

/-! ## Tokens -/

/-- A part of a literal: a bracket or another mark, a number or a name, or a quoted text. -/
inductive Token where
  | mark (c : Char)
  | word (s : List Char)
  | text (s : List Char)
  deriving DecidableEq, Repr

/-- Where the scan is: between tokens, in a word, right behind a quoted text, in a text between two
quotes, behind a backslash in it, or in an escape by a code with so many digits left. -/
inductive Mode where
  | between
  | word
  | closed
  | text (quote : Char)
  | escape (quote : Char)
  | code (quote : Char) (left value : Nat)
  deriving DecidableEq, Repr

/-- No text is open. -/
def Mode.isQuiet : Mode → Bool
  | between => true
  | word => true
  | closed => true
  | _ => false

/-- A scan: the tokens so far, the last one first, the number of brackets that are open, and where
it is. -/
structure Scan where
  tokens : List Token := []
  depth : Nat := 0
  mode : Mode := .between
  deriving DecidableEq, Repr

/-- The character is a quote. -/
def isQuote (c : Char) : Bool := c == '\'' || c == '"'

/-- The character may stand in a word. -/
def isWordChar (c : Char) : Bool := c.isAlphanum || c == '.' || c == '+' || c == '-'

/-- The bracket opens a list, a dictionary or a group. -/
def isOpening (c : Char) : Bool := c == '(' || c == '[' || c == '\x7b'

/-- The bracket closes one. -/
def isClosing (c : Char) : Bool := c == ')' || c == ']' || c == '\x7d'

/-- The character may stand between quotes. -/
def standsRaw (c : Char) : Bool := !endsLine c && c != '\x00'

/-- The character that a backslash and this one stand for. -/
def escaped? (c : Char) : Option Char :=
  if isQuote c || c == '\\' then some c
  else if c == 'n' then some '\n'
  else if c == 'r' then some '\r'
  else if c == 't' then some '\t'
  else none

/-- How many hexadecimal digits a backslash and this letter announce. -/
def codeLength? (c : Char) : Option Nat :=
  if c == 'x' then some 2 else if c == 'u' then some 4 else if c == 'U' then some 8 else none

/-- The tokens with a text at their end that is empty, or the one that is there. -/
def withText : List Token → List Token
  | .text s :: rest => .text s :: rest
  | tokens => .text [] :: tokens

/-- The tokens with a character more in the last one. -/
def extended (c : Char) : List Token → List Token
  | .text s :: rest => .text (s ++ [c]) :: rest
  | .word s :: rest => .word (s ++ [c]) :: rest
  | tokens => tokens

/-- A step behind a token: the next character ends it. -/
def stepQuiet (st : Scan) (c : Char) : Option Scan :=
  if c == ' ' then some { st with mode := .between }
  else if c == '\n' then if st.depth = 0 then none else some { st with mode := .between }
  else if c == ',' || c == ':' then some ⟨.mark c :: st.tokens, st.depth, .between⟩
  else if isOpening c then some ⟨.mark c :: st.tokens, st.depth + 1, .between⟩
  else if isClosing c then
    if st.depth = 0 then none else some ⟨.mark c :: st.tokens, st.depth - 1, .between⟩
  else none

/-- A step of a scan. -/
def step (st : Scan) (c : Char) : Option Scan :=
  match st.mode with
  | .between =>
    if isQuote c then some ⟨withText st.tokens, st.depth, .text c⟩
    else if isWordChar c then some ⟨.word [c] :: st.tokens, st.depth, .word⟩
    else stepQuiet st c
  | .word =>
    if isWordChar c then some { st with tokens := extended c st.tokens } else stepQuiet st c
  | .closed => stepQuiet st c
  | .text quote =>
    if !standsRaw c then none
    else if c == quote then some { st with mode := .closed }
    else if c == '\\' then some { st with mode := .escape quote }
    else some { st with tokens := extended c st.tokens }
  | .escape quote =>
    match escaped? c, codeLength? c with
    | some d, _ => some ⟨extended d st.tokens, st.depth, .text quote⟩
    | none, some count => some { st with mode := .code quote count 0 }
    | none, none => none
  | .code quote left value =>
    match hexValue? c with
    | none => none
    | some digit =>
      let code := 16 * value + digit
      if 1 < left then some { st with mode := .code quote (left - 1) code }
      else if code.isValidChar then
        some ⟨extended (Char.ofNat code) st.tokens, st.depth, .text quote⟩
      else none

/-- Scans characters one after another. -/
def scan (st : Scan) (s : List Char) : Option Scan := s.foldlM step st

/-! ## Numbers -/

/-- The number that decimal digits stand for. -/
def digits? (s : List Char) : Option Nat :=
  if s.isEmpty || !s.all Char.isDigit then none else some (Nat.ofDigitChars 10 s 0)

/-- The exponent behind the letter for it, which has a sign. -/
def exponent? : List Char → Option Int
  | '+' :: s => (digits? s).map Int.ofNat
  | '-' :: s => (digits? s).map fun n => -Int.ofNat n
  | _ => none

/-- The double nearest to a decimal number. -/
def nearest (digits : Nat) (scale : Int) : Json :=
  .double (Double.ofRatio false (digits * Double.tenTo scale.toNat) (Double.tenTo (-scale).toNat))

/-- The number without a sign that a word stands for. A point or an exponent makes it a double; an
integer has no zeros in front. -/
def number? (s : List Char) : Option Json :=
  let (mantissa, exponent) := cutFirst (· == 'e') s
  let (whole, fraction) := cutFirst (· == '.') mantissa
  match fraction, exponent with
  | none, none =>
    if whole.head? = some '0' && whole != ['0'] then none
    else (digits? whole).map fun n => .int (Int.ofNat n)
  | none, some exponent => do
    let digits ← digits? whole
    let e ← exponent? exponent
    return nearest digits e
  | some fraction, exponent => do
    let _ ← digits? whole
    let _ ← digits? fraction
    let digits ← digits? (whole ++ fraction)
    let e ← match exponent with
      | some exponent => exponent? exponent
      | none => some 0
    return nearest digits (e - Int.ofNat fraction.length)

/-- The number with the other sign. -/
def negated? : Json → Option Json
  | .int n => some (.int (-n))
  | .double x => some (.double ⟨!x.negative, x.magnitude, x.magnitude_le⟩)
  | _ => none

/-- The value that a word stands for. -/
def word? (s : List Char) : Option Json :=
  if s = ['N', 'o', 'n', 'e'] then some .null
  else if s = ['T', 'r', 'u', 'e'] then some (.bool true)
  else if s = ['F', 'a', 'l', 's', 'e'] then some (.bool false)
  else
    match s with
    | '-' :: rest => (number? rest).bind negated?
    | s => number? s

/-! ## Values -/

/-- Something that is not complete: a group, a list after some items, or a dictionary after some
members, where a key comes next or the value of one. -/
inductive Frame where
  | group
  | list (items : List Json)
  | key (members : Json.Members)
  | value (members : Json.Members) (key : String)

/-- The values that are not complete, the innermost one first, and the value that was read last
unless one has to come next. -/
structure Build where
  frames : List Frame := []
  current : Option Json := none

/-- A mark where a value has to come next. -/
def openMark (frames : List Frame) (c : Char) : Option Build :=
  if c == '(' then some ⟨.group :: frames, none⟩
  else if c == '[' then some ⟨.list [] :: frames, none⟩
  else if c == '\x7b' then some ⟨.key [] :: frames, none⟩
  else
    match frames with
    | .list [] :: frames => if c == ']' then some ⟨frames, some (.arr [])⟩ else none
    | .key [] :: frames => if c == '\x7d' then some ⟨frames, some (.obj [])⟩ else none
    | _ => none

/-- A mark behind a value. -/
def closeMark (value : Json) (c : Char) : List Frame → Option Build
  | .group :: frames => if c == ')' then some ⟨frames, some value⟩ else none
  | .list items :: frames =>
    if c == ',' then some ⟨.list (items ++ [value]) :: frames, none⟩
    else if c == ']' then some ⟨frames, some (.arr (items ++ [value]))⟩
    else none
  | .key members :: frames =>
    match value with
    | .str key => if c == ':' then some ⟨.value members key :: frames, none⟩ else none
    | _ => none
  | .value members key :: frames =>
    if c == ',' then some ⟨.key (Ordered.insert key value members) :: frames, none⟩
    else if c == '\x7d' then some ⟨frames, some (.obj (Ordered.insert key value members))⟩
    else none
  | [] => none

/-- A step with a token. -/
def buildStep (b : Build) (t : Token) : Option Build :=
  match b.current, t with
  | none, .text s => some ⟨b.frames, some (.str (String.ofList s))⟩
  | none, .word s => (word? s).map fun value => ⟨b.frames, some value⟩
  | none, .mark c => openMark b.frames c
  | some value, .mark c => closeMark value c b.frames
  | some _, _ => none

/-- Puts tokens together one after another. -/
def build (b : Build) (tokens : List Token) : Option Build := tokens.foldlM buildStep b

/-- The value that a literal stands for. -/
def read (s : List Char) : Option Json := do
  let scanned ← scan {} s
  if scanned.depth = 0 && scanned.mode.isQuiet then
    match ← build {} scanned.tokens.reverse with
    | ⟨[], value⟩ => value
    | _ => none
  else none

end ApiDiscovery.Literal
