import ApiDiscovery.Pattern.FoldTable
import ApiDiscovery.Pattern.Syntax
import ApiDiscovery.Text.Blank
import ApiDiscovery.Text.CaseTable
import ApiDiscovery.Text.Digit
import ApiDiscovery.Text.WordTable

/-!
# Characters a node accepts

Which characters a class, a single code point or a set accepts under given flags. Without regard
to case a letter accepts every character with the same lower case and the forms equivalent to it;
a character without case accepts itself alone. In a set, members outside the basic plane keep the
case they are written in: a text is looked up there in its small letters, and a range of such
members in its capital letters too.
-/

namespace ApiDiscovery.Pattern

open ApiDiscovery.Text

/-- A letter of ASCII. -/
def isAsciiLetter (n : Nat) : Bool := (0x41 ≤ n && n ≤ 0x5a) || (0x61 ≤ n && n ≤ 0x7a)

/-- The code point is in the class. -/
def Category.holds (flags : Flags) (kind : Category) (n : Nat) : Bool :=
  match kind with
  | .digit => if flags.unicode then isDecimalDigit (Char.ofNat n) else 0x30 ≤ n && n ≤ 0x39
  | .space =>
    if flags.unicode then isBlank (Char.ofNat n) else (0x09 ≤ n && n ≤ 0x0d) || n == 0x20
  | .word =>
    n == 0x5f || isAsciiLetter n || (0x30 ≤ n && n ≤ 0x39) ||
      (flags.unicode && WordTable.letterOrNumber.contains n)

/-- The lower case of a code point under the alphabet of the flags. -/
def lowerCode (flags : Flags) (n : Nat) : Nat :=
  if flags.unicode then
    if n == 0x130 then 0x69 else mapCode CaseTable.toLowerRuns n
  else if 0x41 ≤ n && n ≤ 0x5a then n + 32 else n

/-- The code point has a case under the alphabet of the flags. -/
def hasCase (flags : Flags) (n : Nat) : Bool :=
  if flags.unicode then FoldTable.cased.contains n else isAsciiLetter n

/-- The other small letters that stand for the same letter. -/
def equivalents (flags : Flags) (n : Nat) : List Nat :=
  if flags.unicode then (FoldTable.equivalents.lookup n).getD [] else []

/-- The small letter `lowered` is the lower case of `n` or equivalent to it. -/
def sameLetter (flags : Flags) (n lowered : Nat) : Bool :=
  let low := lowerCode flags n
  lowered == low || (equivalents flags low).contains lowered

/-- A single code point disregards case: it has one. -/
def codeFolds (flags : Flags) (n : Nat) : Bool := flags.ignoreCase && hasCase flags n

/-- The single code point `n` accepts the code point `m`. -/
def acceptsCode (flags : Flags) (n m : Nat) : Bool :=
  if codeFolds flags n then sameLetter flags n (lowerCode flags m) else n == m

/-- The code points whose lower case is `n`. -/
def withLowerCase (flags : Flags) (n : Nat) : List Nat :=
  (if lowerCode flags n == n then [n] else []) ++
    (if flags.unicode then
      (if n == 0x69 then [0x130] else []) ++ preimages CaseTable.toLowerRuns n
    else if 0x61 ≤ n && n ≤ 0x7a then [n - 32] else [])

/-- The upper case of a code point; the first character of one with several. -/
def upperCode (n : Nat) : Nat :=
  match CaseTable.toUpperLong.lookup n with
  | some (first :: _) => first
  | _ => mapCode CaseTable.toUpperRuns n

/-! ## Sets -/

/-- The last code point of the basic plane. -/
def basicLast : Nat := 0xffff

/-- Some code point of the range is a form of the small letter `lowered`. -/
def rangeHasLetter (flags : Flags) (first last lowered : Nat) : Bool :=
  (lowered :: equivalents flags lowered).any fun n =>
    (withLowerCase flags n).any fun m => first ≤ m && m ≤ last

/-- Some code point of the range has a case. -/
def rangeHasCase (flags : Flags) (first last : Nat) : Bool :=
  if flags.unicode then FoldTable.cased.any fun r => r.1 ≤ last && first ≤ r.2
  else (first ≤ 0x5a && 0x41 ≤ last) || (first ≤ 0x7a && 0x61 ≤ last)

/-- The item makes its set disregard case: it has a code point with a case, or one outside the
basic plane. -/
def SetItem.folds (flags : Flags) : SetItem → Bool
  | .code n => basicLast < n || hasCase flags n
  | .range first last => basicLast < last || rangeHasCase flags first last
  | .category _ _ => false

/-- The item accepts the code point as it is. -/
def SetItem.accepts (flags : Flags) (m : Nat) : SetItem → Bool
  | .code n => n == m
  | .range first last => first ≤ m && m ≤ last
  | .category negated kind => kind.holds flags m != negated

/-- The item accepts the small letter `lowered` in some case. -/
def SetItem.acceptsLetter (flags : Flags) (lowered : Nat) : SetItem → Bool
  | .code n => if basicLast < n then n == lowered else sameLetter flags n lowered
  | .range first last =>
    rangeHasLetter flags first (min last basicLast) lowered ||
      (basicLast < last &&
        [lowered, upperCode lowered].any fun m => first ≤ m && m ≤ last)
  | .category negated kind => kind.holds flags lowered != negated

/-- A set with these members disregards case. -/
def setFolds (flags : Flags) (members : List SetItem) : Bool :=
  flags.ignoreCase && members.any (SetItem.folds flags)

/-- The set accepts the code point. -/
def acceptsSet (flags : Flags) (negated : Bool) (members : List SetItem) (m : Nat) : Bool :=
  (if setFolds flags members then members.any (SetItem.acceptsLetter flags (lowerCode flags m))
  else members.any (SetItem.accepts flags m)) != negated

/-! ## Single characters -/

/-- What takes one character accepts the code point. -/
def Single.accepts (flags : Flags) (m : Nat) : Single → Bool
  | .code n => acceptsCode flags n m
  | .notCode n => !acceptsCode flags n m
  | .any => flags.dotAll || m != 0x0a
  | .set negated members => acceptsSet flags negated members m

end ApiDiscovery.Pattern
