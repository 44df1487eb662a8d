import ApiDiscovery.Text.Composed
import ApiDiscovery.Text.Pieces
import ApiDiscovery.Uri.LabelTable
import ApiDiscovery.Uri.Punycode

/-!
# Labels of international host names

A label may hold letters, digits and hyphens of every script, but not everywhere: it is in composed
form, does not start with a mark, keeps hyphens inside, has the characters that need a context only
in that context, and runs in one direction. In a name on the wire a label with other characters
than ASCII is written in letters of ASCII behind `xn--`.
-/

namespace ApiDiscovery.Uri.HostLabel

open ApiDiscovery.Text

/-! ## Characters in context -/

/-- The character is one of those of a table. -/
def isIn (ranges : CodeRanges) (c : Char) : Bool := ranges.contains c.toNat

/-- The nearest character that is not transparent satisfies `p`. -/
def nearest (p : Char → Bool) (s : List Char) : Bool :=
  match s.dropWhile (isIn LabelTable.transparent) with
  | [] => false
  | c :: _ => p c

/-- The list starts with a mark that suppresses a vowel. -/
def startsWithVirama : List Char → Bool
  | [] => false
  | c :: _ => combiningClass c.toNat == 9

/-- The list starts with a character that satisfies `p`. -/
def startsWith (p : Char → Bool) : List Char → Bool
  | [] => false
  | c :: _ => p c

/-- The digit is one of the ten from `first` on. -/
def isDigitFrom (first : Nat) (c : Char) : Bool := first ≤ c.toNat && c.toNat ≤ first + 9

/-- The character may stand between `before`, which is in reverse, and `after`. -/
def mayStand (before : List Char) (c : Char) (after : List Char) : Bool :=
  let anywhere (p : Char → Bool) := before.any p || after.any p
  if c = '\u200c' then
    startsWithVirama before ||
      nearest (isIn LabelTable.joinsNext) before && nearest (isIn LabelTable.joinsPrevious) after
  else if c = '\u200d' then startsWithVirama before
  else if c = '\u00b7' then startsWith (· == 'l') before && startsWith (· == 'l') after
  else if c = '\u0375' then startsWith (isIn LabelTable.greek) after
  else if c = '\u05f3' || c = '\u05f4' then startsWith (isIn LabelTable.hebrew) before
  else if c = '\u30fb' then anywhere fun d => d != '\u30fb' && isIn LabelTable.japanese d
  else if isDigitFrom 0x660 c then !anywhere (isDigitFrom 0x6f0)
  else if isDigitFrom 0x6f0 c then !anywhere (isDigitFrom 0x660)
  else isIn LabelTable.allowed c

/-- The character joins its neighbours or keeps them from joining. -/
def isJoiner (c : Char) : Bool := c == '\u200c' || c == '\u200d'

/-- The character may stand in some contexts only. -/
def needsContext (c : Char) : Bool :=
  "\u00b7\u0375\u05f3\u05f4\u30fb".toList.contains c || isDigitFrom 0x660 c ||
    isDigitFrom 0x6f0 c

/-- What is wrong with a label: its form, a character that no label may hold, a joiner or another
character outside its context, or the directions in it. -/
inductive Fault where
  | form
  | character
  | joiner
  | context
  | direction
  deriving DecidableEq, Repr

/-- What is wrong with a character that may not stand where it does. -/
def Fault.ofCharacter (c : Char) : Fault :=
  if isJoiner c then .joiner else if needsContext c then .context else .character

/-- The fault of the first character of the rest of a label that may not stand where it does. -/
def characterFault? (before : List Char) : List Char → Option Fault
  | [] => none
  | c :: after =>
    if mayStand before c after then characterFault? (c :: before) after
    else some (.ofCharacter c)

/-! ## Whole labels -/

/-- The label keeps its hyphens inside and has no two of them as its third and fourth character. -/
def hyphensInside (label : List Char) : Bool :=
  label.head? != some '-' && label.getLast? != some '-' && (label.drop 2).take 2 != ['-', '-']

/-- The character is written from right to left, or is an Arabic digit. -/
def isRightToLeft (c : Char) : Bool :=
  isIn LabelTable.rightToLeft c || isIn LabelTable.arabicNumber c

/-- The character has no direction that a label from right to left forbids. -/
def fitsRightToLeft (c : Char) : Bool :=
  isRightToLeft c || isIn LabelTable.europeanNumber c || isIn LabelTable.nonspacing c ||
    isIn LabelTable.neutral c

/-- The label runs in one direction: once it has a character from right to left it starts with such
a letter, ends with one or with a digit, and does not mix digits. -/
def hasOneDirection (label : List Char) : Bool :=
  !label.any isRightToLeft ||
    startsWith (isIn LabelTable.rightToLeft) label && label.all fitsRightToLeft &&
      !(label.any (isIn LabelTable.arabicNumber) && label.any (isIn LabelTable.europeanNumber)) &&
      startsWith (fun c => isRightToLeft c || isIn LabelTable.europeanNumber c)
        (label.reverse.dropWhile (isIn LabelTable.nonspacing))

/-- The label has the form of one: it is neither empty nor too long, is composed, keeps its hyphens
inside and does not start with a mark. -/
def hasForm (label : List Char) : Bool :=
  !label.isEmpty && label.length ≤ 254 && isComposed label && hyphensInside label &&
    !startsWith (isIn LabelTable.marks) label

/-- What is wrong with a label, if anything is. -/
def fault? (label : List Char) : Option Fault :=
  if !hasForm label then some .form
  else
    match characterFault? [] label with
    | some fault => some fault
    | none => if hasOneDirection label then none else some .direction

/-- The label follows all rules. -/
def isLabel (label : List Char) : Bool := (fault? label).isNone

/-- What stands before a label in letters of ASCII. -/
def asciiMark : List Char := "xn--".toList

/-- What is wrong with a label in letters of ASCII: it has to stand for one that follows the
rules. -/
def asciiFault? (label : List Char) : Option Fault :=
  if asciiMark.isPrefixOf label then
    let body := label.drop asciiMark.length
    if body.isEmpty || body.getLast? == some '-' then some .form
    else
      match Punycode.decode body with
      | some meant => fault? meant
      | none => some .form
  else fault? label

/-- The label on the wire, if it follows the rules and has at most 63 characters there. -/
def encode (label : List Char) : Option (List Char) :=
  let wire :=
    if label.all Punycode.isBasic then
      if (asciiFault? label).isNone then some label else none
    else if isLabel label then some (asciiMark ++ Punycode.encode label)
    else none
  wire.filter fun w => w.length ≤ 63

/-- The character separates labels. -/
def isDot (c : Char) : Bool := c == '.' || c == '\u3002' || c == '\uff0e' || c == '\uff61'

/-- The first fault of a host name in letters of ASCII whose first label stands for another one. A
host that starts otherwise is not looked into, and an empty label may stand at the end only. -/
def nameFault? (host : List Char) : Option Fault :=
  if asciiMark.isPrefixOf host then
    let labels := pieces isDot host
    let labels := if labels.getLast? == some [] then labels.dropLast else labels
    labels.findSome? asciiFault?
  else none

/-- The host name on the wire, if all its labels follow the rules; an empty label may stand at the
end only. -/
def encodeName (name : List Char) : Option (List Char) := do
  let labels := pieces isDot name
  let rooted := labels.getLast? == some []
  let labels := if rooted then labels.dropLast else labels
  if 254 < name.length || labels.isEmpty then none
  else
    let encoded ← labels.mapM encode
    let wire := List.intercalate ['.'] encoded ++ if rooted then ['.'] else []
    if wire.length ≤ (if rooted then 254 else 253) then some wire else none

end ApiDiscovery.Uri.HostLabel
