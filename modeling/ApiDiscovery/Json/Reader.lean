import ApiDiscovery.Json.Value
import ApiDiscovery.Text.Integer

/-!
# Reading JSON

A reader for JSON text that reports the first fault with its place. Beyond the standard it
accepts the names `NaN`, `Infinity` and `-Infinity`; a key that repeats has its last value at
its first place; a whole number has at most 4300 digits.
-/

namespace ApiDiscovery.Json

/-- What is wrong with a JSON text. -/
inductive Malformation where
  | byteOrderMark
  | value
  | extraData
  | propertyName
  | colon
  | comma
  | controlCharacter
  | unterminatedString
  | escape
  | unicodeEscape
  deriving DecidableEq, Repr

/-- The words for a malformation. -/
def Malformation.message : Malformation → String
  | .byteOrderMark => "Unexpected UTF-8 BOM (decode using utf-8-sig)"
  | .value => "Expecting value"
  | .extraData => "Extra data"
  | .propertyName => "Expecting property name enclosed in double quotes"
  | .colon => "Expecting ':' delimiter"
  | .comma => "Expecting ',' delimiter"
  | .controlCharacter => "Invalid control character at"
  | .unterminatedString => "Unterminated string starting at"
  | .escape => "Invalid \\escape"
  | .unicodeEscape => "Invalid \\uXXXX escape"

/-- Why a text is not read: a malformation at an offset, or a whole number with too many
digits. -/
inductive ReadFault where
  | malformed (what : Malformation) (position : Nat)
  | hugeInteger (digits : Nat)
  deriving DecidableEq, Repr

namespace Reader

/-- The unread text and its offset. -/
structure Cursor where
  position : Nat
  rest : List Char

/-- The outcome of reading something of type `α`: the value and what follows it. -/
abbrev Result (α : Type) := Except ReadFault (α × Cursor)

/-- The cursor `n` characters further. -/
def Cursor.skip (cur : Cursor) (n : Nat) : Cursor := ⟨cur.position + n, cur.rest.drop n⟩

/-- White space between the tokens. -/
def isSpace (c : Char) : Bool := c == ' ' || c == '\t' || c == '\n' || c == '\r'

/-- The cursor after white space. -/
def Cursor.skipSpace (cur : Cursor) : Cursor := cur.skip (cur.rest.takeWhile isSpace).length

/-- A digit of a number. -/
def isDigit (c : Char) : Bool := '0' ≤ c && c ≤ '9'

/-- The value of decimal digits. -/
def digitsValue (digits : List Char) : Nat :=
  digits.foldl (fun n c => 10 * n + (c.toNat - '0'.toNat)) 0

/-- The digits after a point, if there is a point with a digit after it. -/
def fraction? : List Char → Option (List Char)
  | '.' :: rest =>
    let digits := rest.takeWhile isDigit
    if digits.isEmpty then none else some digits
  | _ => none

/-- An exponent and the number of characters it takes, if there is one with digits. -/
def exponent? : List Char → Option (Int × Nat)
  | e :: rest =>
    if e == 'e' || e == 'E' then
      let (negative, signLength, rest') :=
        match rest with
        | '-' :: r => (true, 1, r)
        | '+' :: r => (false, 1, r)
        | r => (false, 0, r)
      let digits := rest'.takeWhile isDigit
      if digits.isEmpty then none
      else
        let n := Int.ofNat (digitsValue digits)
        some (if negative then -n else n, 1 + signLength + digits.length)
    else none
  | [] => none

/-- The number that starts here: a whole number unless it has a fraction or an exponent. -/
def number (cur : Cursor) : Result Json :=
  let (negative, signLength, body) :=
    match cur.rest with
    | '-' :: r => (true, 1, r)
    | r => (false, 0, r)
  let whole := match body with
    | '0' :: _ => ['0']
    | r => r.takeWhile isDigit
  if whole.isEmpty then .error (.malformed .value cur.position)
  else
    let afterWhole := body.drop whole.length
    let fraction := fraction? afterWhole
    let fractionLength := match fraction with
      | some digits => digits.length + 1
      | none => 0
    let exponent := exponent? (afterWhole.drop fractionLength)
    let exponentLength := match exponent with
      | some (_, n) => n
      | none => 0
    let next := cur.skip (signLength + whole.length + fractionLength + exponentLength)
    match fraction, exponent with
    | none, none =>
      if Text.maxDigits < whole.length then .error (.hugeInteger whole.length)
      else
        let n := Int.ofNat (digitsValue whole)
        .ok (.int (if negative then -n else n), next)
    | _, _ =>
      let decimals := fraction.getD []
      let digits := whole ++ decimals
      let scale := (exponent.map Prod.fst).getD 0 - Int.ofNat decimals.length
      .ok (.double (Double.ofDecimal negative (digitsValue digits) digits.length scale), next)

/-- The value of four hexadecimal digits. -/
def hexUnit? : List Char → Option Nat
  | a :: b :: c :: d :: _ => do
    let a ← Text.hexValue? a
    let b ← Text.hexValue? b
    let c ← Text.hexValue? c
    let d ← Text.hexValue? d
    some (((a * 16 + b) * 16 + c) * 16 + d)
  | _ => none

/-- The character of an escape of one letter. -/
def shortEscape? (c : Char) : Option Char :=
  match c with
  | '"' => some '"'
  | '\\' => some '\\'
  | '/' => some '/'
  | 'b' => some '\x08'
  | 'f' => some '\x0c'
  | 'n' => some '\n'
  | 'r' => some '\r'
  | 't' => some '\t'
  | _ => none

/-- The low half of a pair of code units, if it follows here. A half that is the last thing in the
text is not looked at. -/
def lowUnit? (rest : List Char) (position : Nat) : Except ReadFault (Option Nat) :=
  match rest with
  | '\\' :: 'u' :: digits =>
    if (digits.drop 4).isEmpty then .ok none
    else
      match hexUnit? digits with
      | some n => .ok (if 0xdc00 ≤ n && n ≤ 0xdfff then some n else none)
      | none => .error (.malformed .unicodeEscape (position + 1))
  | _ => .ok none

/-- Reads the characters of a string up to its closing quote. The string starts at `start`; the
characters read so far are in reverse order. -/
def stringBody (start : Nat) : Nat → List Char → Cursor → Result String
  | 0, _, _ => .error (.malformed .unterminatedString start)
  | fuel + 1, read, cur =>
    match cur.rest with
    | [] => .error (.malformed .unterminatedString start)
    | '"' :: rest => .ok (String.ofList read.reverse, ⟨cur.position + 1, rest⟩)
    | '\\' :: rest =>
      match rest with
      | [] => .error (.malformed .unterminatedString start)
      | 'u' :: digits =>
        if (digits.drop 4).isEmpty then .error (.malformed .unicodeEscape (cur.position + 1))
        else
          match hexUnit? digits with
          | none => .error (.malformed .unicodeEscape (cur.position + 1))
          | some n =>
            let next := cur.skip 6
            if 0xd800 ≤ n && n ≤ 0xdbff then
              match lowUnit? next.rest next.position with
              | .error e => .error e
              | .ok (some low) =>
                let c := Char.ofNat (0x10000 + (n - 0xd800) * 0x400 + (low - 0xdc00))
                stringBody start fuel (c :: read) (next.skip 6)
              | .ok none => stringBody start fuel ('\uFFFD' :: read) next
            else if 0xdc00 ≤ n && n ≤ 0xdfff then
              stringBody start fuel ('\uFFFD' :: read) next
            else stringBody start fuel (Char.ofNat n :: read) next
      | c :: rest' =>
        match shortEscape? c with
        | some d => stringBody start fuel (d :: read) ⟨cur.position + 2, rest'⟩
        | none => .error (.malformed .escape cur.position)
    | c :: rest =>
      if c.toNat ≤ 0x1f then .error (.malformed .controlCharacter cur.position)
      else stringBody start fuel (c :: read) ⟨cur.position + 1, rest⟩

/-- Reads a string after its opening quote. -/
def string (cur : Cursor) : Result String :=
  stringBody (cur.position - 1) (cur.rest.length + 1) [] cur

/-- The names that stand for values. -/
def names : List (List Char × Json) :=
  [("null".toList, .null), ("true".toList, .bool true), ("false".toList, .bool false),
   ("NaN".toList, .double Double.nan), ("Infinity".toList, .double (Double.infinity false)),
   ("-Infinity".toList, .double (Double.infinity true))]

mutual

/-- Reads the value that starts here. -/
def value : Nat → Cursor → Result Json
  | 0, cur => .error (.malformed .value cur.position)
  | fuel + 1, cur =>
    match cur.rest with
    | '"' :: rest =>
      match string ⟨cur.position + 1, rest⟩ with
      | .ok (s, next) => .ok (.str s, next)
      | .error e => .error e
    | '[' :: rest =>
      let inner := (Cursor.mk (cur.position + 1) rest).skipSpace
      match inner.rest with
      | ']' :: rest' => .ok (.arr [], ⟨inner.position + 1, rest'⟩)
      | _ => items fuel [] inner
    | '\x7b' :: rest =>
      let inner := (Cursor.mk (cur.position + 1) rest).skipSpace
      match inner.rest with
      | '\x7d' :: rest' => .ok (.obj [], ⟨inner.position + 1, rest'⟩)
      | _ => members fuel [] inner
    | _ =>
      match names.find? fun name => name.1.isPrefixOf cur.rest with
      | some (text, v) => .ok (v, cur.skip text.length)
      | none => number cur

/-- Reads the items of an array from the next item to the closing bracket. -/
def items : Nat → List Json → Cursor → Result Json
  | 0, _, cur => .error (.malformed .value cur.position)
  | fuel + 1, read, cur =>
    match value fuel cur with
    | .error e => .error e
    | .ok (v, next) =>
      let next := next.skipSpace
      match next.rest with
      | ']' :: rest => .ok (.arr (v :: read).reverse, ⟨next.position + 1, rest⟩)
      | ',' :: rest => items fuel (v :: read) (Cursor.mk (next.position + 1) rest).skipSpace
      | _ => .error (.malformed .comma next.position)

/-- Reads the members of an object from the next key to the closing brace. -/
def members : Nat → Members → Cursor → Result Json
  | 0, _, cur => .error (.malformed .value cur.position)
  | fuel + 1, read, cur =>
    match cur.rest with
    | '"' :: rest =>
      match string ⟨cur.position + 1, rest⟩ with
      | .error e => .error e
      | .ok (key, next) =>
        let next := next.skipSpace
        match next.rest with
        | ':' :: rest =>
          match value fuel (Cursor.mk (next.position + 1) rest).skipSpace with
          | .error e => .error e
          | .ok (v, next) =>
            let next := next.skipSpace
            -- A key that comes again keeps its place and takes the later value.
            let read := Ordered.insert key v read
            match next.rest with
            | '\x7d' :: rest => .ok (.obj read, ⟨next.position + 1, rest⟩)
            | ',' :: rest => members fuel read (Cursor.mk (next.position + 1) rest).skipSpace
            | _ => .error (.malformed .comma next.position)
        | _ => .error (.malformed .colon next.position)
    | _ => .error (.malformed .propertyName cur.position)

end

/-- Reads a whole text as one value. -/
def read (text : List Char) : Except ReadFault Json :=
  match text with
  | '\uFEFF' :: _ => .error (.malformed .byteOrderMark 0)
  | _ =>
    let start := (Cursor.mk 0 text).skipSpace
    match value (text.length + 1) start with
    | .error e => .error e
    | .ok (v, next) =>
      let next := next.skipSpace
      if next.rest.isEmpty then .ok v else .error (.malformed .extraData next.position)

/-- The line and the column of an offset, both counted from one. -/
def lineAndColumn (text : List Char) (position : Nat) : Nat × Nat :=
  let before := text.take position
  ((before.filter (· == '\n')).length + 1,
    (before.reverse.takeWhile (· != '\n')).length + 1)

end Reader

/-- The words for a fault in `text`. -/
def ReadFault.message (text : List Char) : ReadFault → String
  | .malformed what position =>
    let (line, column) := Reader.lineAndColumn text position
    s!"{what.message}: line {line} column {column} (char {position})"
  | .hugeInteger digits => Text.tooManyDigits digits

/-- The value of a JSON text. -/
def ofText (text : String) : Except ReadFault Json := Reader.read text.toList

end ApiDiscovery.Json
