import ApiDiscovery.Text.Digit
import ApiDiscovery.Text.Pieces
import ApiDiscovery.Text.Quoted

/-!
# Command line options

The words of a command line are options, values and the mark after which all words are values. An
option may be shortened as long as it is told from the others; short options may stand in one word,
and the value of an option may stand in the word of the option or be the next word.
-/

namespace ApiDiscovery.Program

/-- The options of the program. -/
inductive Choice where
  | help
  | outputDir
  | templateDir
  | verbose
  deriving DecidableEq, Repr

namespace Choice

/-- The short form of an option. -/
def short : Choice → String
  | help => "-h"
  | outputDir => "-o"
  | templateDir => "-t"
  | verbose => "-v"

/-- The long form of an option. -/
def long : Choice → String
  | help => "--help"
  | outputDir => "--output-dir"
  | templateDir => "--template-dir"
  | verbose => "--verbose"

/-- All options. -/
def all : List Choice := [help, outputDir, templateDir, verbose]

/-- What the value of an option is called, if it takes one. -/
def valueName? : Choice → Option String
  | outputDir => some "OUTPUT_DIR"
  | templateDir => some "TEMPLATE_DIR"
  | _ => none

/-- The option takes a value. -/
def takesValue (c : Choice) : Bool := c.valueName?.isSome

/-- The option with this short form. -/
def ofShort? (form : String) : Option Choice := all.find? fun c => c.short = form

/-- The option with this form. -/
def ofForm? (form : String) : Option Choice := all.find? fun c => c.short = form || c.long = form

end Choice

/-- What is wrong with a command line. -/
inductive UsageFault where
  | ambiguous (word : String) (forms : List String)
  | unwantedValue (choice : Choice) (value : String)
  | valueMissing (choice : Choice)
  | documentMissing
  | unrecognized (words : List String)
  deriving DecidableEq, Repr

/-- The words for a fault of the command line. -/
def UsageFault.message : UsageFault → String
  | ambiguous word forms =>
    "ambiguous option: " ++ word ++ " could match " ++ Text.joinWith ", " forms
  | unwantedValue choice value =>
    "argument " ++ choice.short ++ "/" ++ choice.long ++ ": ignored explicit argument " ++
      Text.quoted value
  | valueMissing choice =>
    "argument " ++ choice.short ++ "/" ++ choice.long ++ ": expected one argument"
  | documentMissing => "the following arguments are required: document"
  | unrecognized words => "unrecognized arguments: " ++ Text.joinWith " " words

/-- A word of a command line: a value, the mark before values only, an option in its short or long
form with the value in its word, or a word that looks like an option and is none. -/
inductive Word where
  | plain (text : String)
  | mark
  | option (choice : Choice) (isShort : Bool) (value : Option String)
  | unknown (text : String)
  deriving DecidableEq, Repr

namespace Word

/-- A minus sign and a decimal number, which may be closed by a line feed. -/
def isNegativeNumber (s : List Char) : Bool :=
  let body := if s.getLast? = some '\n' then s.dropLast else s
  match body with
  | '-' :: number =>
    match Text.cutFirst (· == '.') number with
    | (digits, none) => !digits.isEmpty && digits.all Text.isDecimalDigit
    | (whole, some part) =>
      whole.all Text.isDecimalDigit && !part.isEmpty && part.all Text.isDecimalDigit
  | _ => false

/-- The part before the first equals sign and the part after it. -/
def cutValue (text : String) : String × Option String :=
  let (form, value) := Text.cutFirst (· == '=') text.toList
  (String.ofList form, value.map String.ofList)

/-- The word for a text that starts with a minus sign and is no form of an option. -/
def ofOther (text : String) : Word :=
  if isNegativeNumber text.toList || text.toList.contains ' ' then .plain text
  else .unknown text

/-- The word for a text that may be a shortened long form. -/
def ofLong (text : String) : Except UsageFault Word :=
  let (form, value) := cutValue text
  match Choice.all.filter fun c => form.toList.isPrefixOf c.long.toList with
  | [] => .ok (ofOther text)
  | [choice] => .ok (.option choice false value)
  | choices => .error (.ambiguous text (choices.map Choice.long))

/-- The word for a text that may be a short form with more behind it. -/
def ofShort (text : String) : Word :=
  match Choice.ofShort? (String.ofList (text.toList.take 2)) with
  | some choice => .option choice true (some (String.ofList (text.toList.drop 2)))
  | none => ofOther text

/-- The word for a text that starts with a minus sign and has more characters. -/
def ofDashed (text : String) : Except UsageFault Word :=
  match Choice.ofForm? text with
  | some choice => .ok (.option choice (choice.short = text) none)
  | none =>
    match cutValue text with
    | (form, some value) =>
      match Choice.ofForm? form with
      | some choice => .ok (.option choice (choice.short = form) (some value))
      | none => other
    | (_, none) => other
where
  /-- The word if the text is no form of an option. -/
  other : Except UsageFault Word :=
    if text.toList.take 2 = ['-', '-'] then ofLong text else .ok (ofShort text)

/-- The words of a command line. -/
def ofTexts : List String → Except UsageFault (List Word)
  | [] => .ok []
  | "--" :: rest => .ok (.mark :: rest.map .plain)
  | text :: rest => do
    let word ←
      match text.toList with
      | '-' :: _ :: _ => ofDashed text
      | _ => .ok (.plain text)
    let others ← ofTexts rest
    return word :: others

end Word
end ApiDiscovery.Program
