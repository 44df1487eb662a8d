/-!
# Labels in letters of ASCII

A label with other characters is written as its characters of ASCII, a hyphen, and digits of base
36 for the rest: in the order of code points, each says how far along the label and the code
points the next one lies. The digits of a number have varying weights, which adapt to the numbers
before.
-/

namespace ApiDiscovery.Uri.Punycode

/-! ## Digits -/

/-- The digit of a value below 36. -/
def digit (value : Nat) : Char :=
  if value < 26 then Char.ofNat (0x61 + value) else Char.ofNat (0x30 + value - 26)

/-- The value of a digit. -/
def value? (c : Char) : Option Nat :=
  if 'a' ≤ c && c ≤ 'z' then some (c.toNat - 0x61)
  else if 'A' ≤ c && c ≤ 'Z' then some (c.toNat - 0x41)
  else if '0' ≤ c && c ≤ '9' then some (c.toNat - 0x30 + 26)
  else none

/-- The value below which the digit at a place ends its number. -/
def threshold (place bias : Nat) : Nat := max 1 (min 26 (36 * (place + 1) - bias))

/-- A threshold leaves room for other digits. -/
theorem threshold_bounds (place bias : Nat) :
    1 ≤ threshold place bias ∧ threshold place bias ≤ 26 := by
  unfold threshold
  omega

/-- The weights for the next number, once it is scaled down to at most 455. -/
def scaledBias (scale delta : Nat) : Nat :=
  if 455 < delta then scaledBias (scale + 36) (delta / 35)
  else scale + 36 * delta / (delta + 38)
termination_by delta
decreasing_by omega

/-- The weights after the number `delta`, with `count` characters placed so far. -/
def adapt (delta count : Nat) (isFirst : Bool) : Nat :=
  let halved := if isFirst then delta / 700 else delta / 2
  scaledBias 0 (halved + halved / count)

/-! ## Writing -/

/-- The digits of a number from `place` on. -/
def digits (bias place n : Nat) : List Char :=
  let t := threshold place bias
  if n < t then [digit n]
  else digit (t + (n - t) % (36 - t)) :: digits bias (place + 1) ((n - t) / (36 - t))
termination_by n
decreasing_by
  have := threshold_bounds place bias
  have := Nat.div_le_self (n - threshold place bias) (36 - threshold place bias)
  omega

/-- What has been written and the distance since the last character. -/
structure Progress where
  written : List Char
  distance : Nat
  bias : Nat
  placed : Nat

/-- Passes a character of the label while characters with the code `code` are placed. -/
def Progress.pass (code basic : Nat) (p : Progress) (c : Char) : Progress :=
  if c.toNat < code then { p with distance := p.distance + 1 }
  else if c.toNat = code then
    { written := p.written ++ digits p.bias 0 p.distance
      distance := 0
      bias := adapt p.distance (p.placed + 1) (p.placed == basic)
      placed := p.placed + 1 }
  else p

/-- Places the characters of all the given codes, which are in order; `next` is the least code not
yet looked at. -/
def Progress.place (label : List Char) (basic : Nat) (next : Nat) (p : Progress) :
    List Nat → Progress
  | [] => p
  | code :: rest =>
    let ahead := { p with distance := p.distance + (code - next) * (p.placed + 1) }
    let after := label.foldl (Progress.pass code basic) ahead
    Progress.place label basic (code + 1) { after with distance := after.distance + 1 } rest

/-- The list in order and without repetitions. -/
def sortedDistinct (codes : List Nat) : List Nat := (codes.mergeSort (· ≤ ·)).eraseDups

/-- The character is in ASCII. -/
def isBasic (c : Char) : Bool := c.toNat < 0x80

/-- A label in letters of ASCII. -/
def encode (label : List Char) : List Char :=
  let basic := label.filter isBasic
  let codes := sortedDistinct ((label.filter fun c => !isBasic c).map Char.toNat)
  let start : Progress := ⟨[], 0, 72, basic.length⟩
  let done := start.place label basic.length 0x80 codes
  (if basic.isEmpty then [] else basic ++ ['-']) ++ done.written

/-! ## Reading -/

/-- Reads a number: its value and the characters after it. -/
def number? (bias place weight value : Nat) : List Char → Option (Nat × List Char)
  | [] => none
  | c :: rest =>
    match value? c with
    | none => none
    | some d =>
      let t := threshold place bias
      if d < t then some (value + d * weight, rest)
      else number? bias (place + 1) (weight * (36 - t)) (value + d * weight) rest

/-- Reading a number uses up characters. -/
theorem number?_length {s rest : List Char} {bias place weight value n : Nat}
    (h : number? bias place weight value s = some (n, rest)) : rest.length < s.length := by
  induction s generalizing place weight value with
  | nil => simp [number?] at h
  | cons c s ih =>
    simp only [number?] at h
    split at h
    · simp at h
    · split at h
      · simp only [Option.some.injEq, Prod.mk.injEq] at h
        obtain ⟨-, rfl⟩ := h
        simp
      · have := ih h
        simp only [List.length_cons]
        omega

/-- Inserts the characters that the numbers describe; `start` is the position after the last one
and `code` its code. -/
def insertAll (label : List Char) (code start bias : Nat) (isFirst : Bool) (s : List Char) :
    Option (List Char) :=
  if s.isEmpty then some label
  else
    match _h : number? bias 0 1 0 s with
    | none => none
    | some (delta, rest) =>
      let position := start + delta
      let next := code + position / (label.length + 1)
      if 0x10ffff < next then none
      else
        let place := position % (label.length + 1)
        let longer := label.take place ++ Char.ofNat next :: label.drop place
        insertAll longer next (place + 1) (adapt delta longer.length isFirst) false rest
termination_by s.length
decreasing_by exact number?_length _h

/-- The label written in letters of ASCII. -/
def decode (s : List Char) : Option (List Char) :=
  let extended := (s.reverse.takeWhile (· != '-')).reverse
  insertAll (s.take (s.length - extended.length - 1)) 0x80 0 72 true extended

end ApiDiscovery.Uri.Punycode
