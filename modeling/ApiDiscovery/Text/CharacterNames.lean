import ApiDiscovery.Text.CodeRanges
import ApiDiscovery.Text.Digit
import ApiDiscovery.Text.Names.Alchemical
import ApiDiscovery.Text.Names.Anatolian
import ApiDiscovery.Text.Names.Ancient
import ApiDiscovery.Text.Names.Brahmic
import ApiDiscovery.Text.Names.Cuneiform
import ApiDiscovery.Text.Names.Dingbat
import ApiDiscovery.Text.Names.EastAsian
import ApiDiscovery.Text.Names.Enclosed
import ApiDiscovery.Text.Names.European
import ApiDiscovery.Text.Names.Further
import ApiDiscovery.Text.Names.Indic
import ApiDiscovery.Text.Names.Notation
import ApiDiscovery.Text.Names.Phonetic
import ApiDiscovery.Text.Names.Pictograph
import ApiDiscovery.Text.Names.Presentation
import ApiDiscovery.Text.Names.Regional
import ApiDiscovery.Text.Names.Semitic
import ApiDiscovery.Text.Names.Syllabary
import ApiDiscovery.Text.Names.Symbol
import ApiDiscovery.Text.Names.Tile
import ApiDiscovery.Text.Pieces

/-!
# Names of characters

A character of Unicode 14 is looked up by its name, or by a further name it has. Most names stand in
tables; those of some scripts differ in a number only. In both the case of the letters does not
count. The names of Hangul syllables and of unified ideographs follow rules, and have to be in
capital letters. Ideographs of the Tangut script have no names here.
-/

namespace ApiDiscovery.Text

namespace Names

/-! ## Tables -/

/-- A name as the list of its words. -/
abbrev Words := List (List Char)

/-- The words of a name. -/
def wordsOf (name : List Char) : Words := pieces (· == ' ') name

/-- The names of a run of entries. An entry starts with a digit for the number of words that its
name has in common with the name before it; the other words follow. -/
def namesAfter (before : Words) : List (List Char) → List Words
  | (digit :: text) :: rest =>
    let name := before.take (digit.toNat - '0'.toNat) ++ wordsOf text
    name :: namesAfter name rest
  | _ => []

/-- The names of a run, whose entries are divided by semicolons and by the ends of lines. -/
def namesOf (run : String) : List Words :=
  namesAfter [] (pieces (fun c => c == ';' || c == '\n') run.toList)

/-- The code point of the character with this name in a run that starts at the given one. -/
def inRun? (name : Words) (run : Nat × String) : Option Nat :=
  ((namesOf run.2).idxOf? name).map fun index => run.1 + index

/-- All runs of named characters. -/
def runs : List (List (Nat × String)) :=
  [europeanRuns, semiticRuns, indicRuns, syllabaryRuns, phoneticRuns, symbolRuns, enclosedRuns,
   dingbatRuns, eastAsianRuns, regionalRuns, presentationRuns, ancientRuns, brahmicRuns,
   cuneiformRuns, anatolianRuns, notationRuns, tileRuns, pictographRuns, alchemicalRuns]

/-- The code point of the character with this name in the tables. -/
def inTables? (name : Words) : Option Nat :=
  runs.findSome? fun table => table.findSome? (inRun? name)

/-- The code point of the character with this further name. -/
def furtherCode? (name : List Char) : Option Nat :=
  (further.find? fun row => (pieces (· == ';') row.2.toList).contains name).map Prod.fst

/-! ## Numbers -/

/-- A run of characters with the same name up to a number. -/
structure Numbered where
  stem : String
  first : Nat
  last : Nat
  /-- The number of the first character. -/
  start : Nat
  base : Nat := 10
  width : Nat := 1

/-- A number in capital digits of some base, with zeros up to some width. -/
def numberText (base width n : Nat) : List Char :=
  let digits := (Nat.toDigits base n).map Char.toUpper
  List.replicate (width - digits.length) '0' ++ digits

/-- The characters from one to another, each with its own code point as its number. -/
def numberedByCode (stem : String) (first last : Nat) : Numbered where
  stem := stem
  first := first
  last := last
  start := first
  base := 16
  width := 4

/-- The characters whose names differ in a number. -/
def numbered : List Numbered :=
  [numberedByCode "CJK COMPATIBILITY IDEOGRAPH-" 0xf900 0xfa6d,
   numberedByCode "CJK COMPATIBILITY IDEOGRAPH-" 0xfa70 0xfad9,
   numberedByCode "CJK COMPATIBILITY IDEOGRAPH-" 0x2f800 0x2fa1d,
   numberedByCode "KHITAN SMALL SCRIPT CHARACTER-" 0x18b00 0x18cd5,
   numberedByCode "NUSHU CHARACTER-" 0x1b170 0x1b2fb,
   ⟨"TANGUT COMPONENT-", 0x18800, 0x18aff, 1, 10, 3⟩,
   ⟨"VARIATION SELECTOR-", 0xfe00, 0xfe0f, 1, 10, 1⟩,
   ⟨"VARIATION SELECTOR-", 0xe0100, 0xe01ef, 17, 10, 1⟩,
   ⟨"VS", 0xfe00, 0xfe0f, 1, 10, 1⟩,
   ⟨"VS", 0xe0100, 0xe01ef, 17, 10, 1⟩]

/-- The code point of the character of the run with this name. -/
def Numbered.code? (row : Numbered) (name : List Char) : Option Nat :=
  let stem := row.stem.toList
  if stem.isPrefixOf name then
    let number := name.drop stem.length
    let index := (List.range (row.last + 1 - row.first)).find? fun index =>
      numberText row.base row.width (row.start + index) == number
    index.map fun index => row.first + index
  else none

/-! ## Hangul syllables -/

/-- The texts of the consonants that start a syllable. -/
def initials : List String :=
  ["G", "GG", "N", "D", "DD", "R", "M", "B", "BB", "S", "SS", "", "J", "JJ", "C", "K", "T", "P",
   "H"]

/-- The texts of the vowels. -/
def vowels : List String :=
  ["A", "AE", "YA", "YAE", "EO", "E", "YEO", "YE", "O", "WA", "WAE", "OE", "YO", "U", "WEO", "WE",
   "WI", "YU", "EU", "YI", "I"]

/-- The texts of the consonants that end a syllable. -/
def finals : List String :=
  ["", "G", "GG", "GS", "N", "NJ", "NH", "D", "L", "LG", "LM", "LB", "LS", "LT", "LP", "LH", "M",
   "B", "BS", "S", "SS", "NG", "J", "C", "K", "T", "P", "H"]

/-- The letter is part of a vowel. -/
def isVowelLetter (c : Char) : Bool := "AEIOUWY".toList.contains c

/-- The code point of a syllable by the text behind the words for it: the consonants up to the first
letter of a vowel, the vowel, and what follows. -/
def syllableCode? (text : List Char) : Option Nat := do
  let rest := text.dropWhile fun c => !isVowelLetter c
  let initial ← initials.idxOf? (String.ofList (text.takeWhile fun c => !isVowelLetter c))
  let vowel ← vowels.idxOf? (String.ofList (rest.takeWhile isVowelLetter))
  let final ← finals.idxOf? (String.ofList (rest.dropWhile isVowelLetter))
  return 0xac00 + (initial * 21 + vowel) * 28 + final

/-! ## Unified ideographs -/

/-- The unified ideographs. -/
def ideographs : CodeRanges :=
  [(0x3400, 0x4dbf), (0x4e00, 0x9fff), (0x20000, 0x2a6df), (0x2a700, 0x2b738), (0x2b740, 0x2b81d),
   (0x2b820, 0x2cea1), (0x2ceb0, 0x2ebe0), (0x30000, 0x3134a)]

/-- The code point of an ideograph by its digits: four or five hexadecimal ones in capital
letters. -/
def ideographCode? (digits : List Char) : Option Nat := do
  if digits.length ≠ 4 && digits.length ≠ 5 || digits.any Char.isLower then none
  let values ← digits.mapM hexValue?
  let code := values.foldl (fun n digit => 16 * n + digit) 0
  if ideographs.contains code then some code else none

end Names

/-! ## Looking up -/

/-- The code point of the character with this name. -/
def codeOfName? (name : String) : Option Nat :=
  let syllable := "HANGUL SYLLABLE ".toList
  let ideograph := "CJK UNIFIED IDEOGRAPH-".toList
  let given := name.toList
  if syllable.isPrefixOf given then Names.syllableCode? (given.drop syllable.length)
  else if ideograph.isPrefixOf given then Names.ideographCode? (given.drop ideograph.length)
  else
    let wanted := given.map Char.toUpper
    Names.furtherCode? wanted <|> Names.numbered.findSome? (·.code? wanted) <|>
      Names.inTables? (Names.wordsOf wanted)

end ApiDiscovery.Text
