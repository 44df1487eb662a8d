import ApiDiscovery.Text.CaseTable

/-!
# Lower and upper case

The full case mappings of Unicode. All characters but one are mapped on their own; a capital
sigma becomes the final form at the end of a word, which is a question about its context.
-/

namespace ApiDiscovery.Text

/-- The character can stand between a letter and the place its context is asked for. -/
def isCaseIgnorable (c : Char) : Bool := CaseTable.ignorable.contains c.toNat

/-- The character is a letter with a case and gives a word its context. -/
def isCased (c : Char) : Bool := CaseTable.cased.contains c.toNat

/-- The nearest character that is not case-ignorable is a cased letter. -/
def nearestIsCased (s : List Char) : Bool :=
  match s.dropWhile isCaseIgnorable with
  | [] => false
  | c :: _ => isCased c

/-- The lower case of a character outside any context. -/
def lowerChar (c : Char) : List Char :=
  if c = 'İ' then ['i', '\u0307'] else [Char.ofNat (mapCode CaseTable.toLowerRuns c.toNat)]

/-- Lower case of the text after the characters `before`, which are given in reverse. -/
def lowerAfter (before : List Char) : List Char → List Char
  | [] => []
  | c :: rest =>
    (if c = 'Σ' then
      (if nearestIsCased before && !nearestIsCased rest then ['ς'] else ['σ'])
    else lowerChar c) ++ lowerAfter (c :: before) rest

/-- The text in lower case. -/
def lower (s : String) : String := String.ofList (lowerAfter [] s.toList)

/-- The upper case of a character, which may be longer than one character. -/
def upperChar (c : Char) : List Char :=
  match CaseTable.toUpperLong.lookup c.toNat with
  | some codes => codes.map Char.ofNat
  | none => [Char.ofNat (mapCode CaseTable.toUpperRuns c.toNat)]

/-- The text in upper case. -/
def upper (s : String) : String := String.ofList (s.toList.flatMap upperChar)

end ApiDiscovery.Text
