import ApiDiscovery.Program.Option
import ApiDiscovery.Program.Settings

/-!
# Arguments

A command line names one document and may change the settings. Words are taken in order; a word
that nothing asks for is reported once everything else is in order.
-/

namespace ApiDiscovery.Program

/-- What a command line asks for. An option for the directory of modules may leave it without
one. -/
structure Arguments where
  document : String
  outputDir : Option Files.Path
  templateDir : Option Files.Path
  logLevel : String
  deriving DecidableEq, Repr

namespace Arguments

/-- What has been read of a command line. -/
structure Progress where
  document : Option String := none
  outputDir : Option String := none
  templateDir : Option String := none
  verbose : Bool := false
  left : List String := []

/-- Why reading a command line ends early. -/
inductive Stop where
  | help
  | usage (fault : UsageFault)
  deriving DecidableEq, Repr

/-- Takes an option with its value, if it has one. -/
def Progress.choose (p : Progress) (choice : Choice) (value : String) : Except Stop Progress :=
  match choice with
  | .help => .error .help
  | .outputDir => .ok { p with outputDir := some value }
  | .templateDir => .ok { p with templateDir := some value }
  | .verbose => .ok { p with verbose := true }

/-- The options in one word: those without a value, then the last one with the value in the word, if
there is one. The text behind a short option without a value has more short options. -/
def cluster (choice : Choice) : List Char → Except UsageFault (List Choice × Option String)
  | [] =>
    if choice.takesValue then .ok ([choice], some "")
    else .error (.unwantedValue choice "")
  | c :: rest =>
    if choice.takesValue then .ok ([choice], some (String.ofList (c :: rest)))
    else
      match Choice.ofShort? (String.ofList ['-', c]) with
      | none => .error (.unwantedValue choice (String.ofList (c :: rest)))
      | some next =>
        if rest.isEmpty then .ok ([choice, next], none)
        else (cluster next rest).map fun r => (choice :: r.1, r.2)

/-- The options in the word of an option. -/
def optionsIn (choice : Choice) (isShort : Bool) (value : Option String) :
    Except UsageFault (List Choice × Option String) :=
  match value with
  | none => .ok ([choice], none)
  | some text =>
    if choice.takesValue then .ok ([choice], some text)
    else if isShort then cluster choice text.toList
    else .error (.unwantedValue choice text)

/-- Takes several options, of which only the last has the value. -/
def Progress.chooseAll (p : Progress) (value : String) : List Choice → Except Stop Progress
  | [] => .ok p
  | choice :: rest => (p.choose choice value).bind fun next => next.chooseAll value rest

/-- Takes a word that is a value. -/
def Progress.take (p : Progress) (text : String) : Progress :=
  if p.document.isNone then { p with document := some text }
  else { p with left := p.left ++ [text] }

/-- Takes the words after the mark. -/
def Progress.takeAll (p : Progress) (texts : List String) : Progress :=
  texts.foldl Progress.take p

/-- The texts of words that are values. -/
def valueTexts (words : List Word) : List String :=
  words.filterMap fun word =>
    match word with
    | .plain text => some text
    | _ => none

/-- Reads words. The mark is taken with the document before or after it and is left over where there
is none. -/
def readWords (p : Progress) : List Word → Except Stop Progress
  | [] => .ok p
  | .plain text :: .mark :: rest =>
    if p.document.isNone then .ok ((p.take text).takeAll (valueTexts rest))
    else .ok ((p.take text).takeAll ("--" :: valueTexts rest))
  | .plain text :: rest => readWords (p.take text) rest
  | .mark :: rest =>
    match p.document, valueTexts rest with
    | none, document :: others => .ok ((p.take document).takeAll others)
    | _, values => .ok { p with left := p.left ++ "--" :: values }
  | .unknown text :: rest => readWords { p with left := p.left ++ [text] } rest
  | .option choice isShort value :: rest =>
    match optionsIn choice isShort value with
    | .error fault => .error (.usage fault)
    | .ok (choices, some value) => (p.chooseAll value choices).bind fun next => readWords next rest
    | .ok (choices, none) =>
      let last := choices.getLast?.getD choice
      if last.takesValue then
        match rest with
        | .plain value :: others =>
          (p.chooseAll value choices).bind fun next => readWords next others
        | _ => .error (.usage (.valueMissing last))
      else (p.chooseAll "" choices).bind fun next => readWords next rest
termination_by words => words.length

/-- The text in the word of an option as the value of the option; the mark is no value. -/
def value? (text : String) : Option String := if text = "--" then none else some text

/-- The directory for modules. -/
def outputDirOf (settings : Settings) : Option String → Option Files.Path
  | some text => (value? text).map Files.Path.ofText
  | none => some settings.outputDir

/-- The directory for templates; an option without a value names the one that is called like an
empty list. -/
def templateDirOf (settings : Settings) : Option String → Option Files.Path
  | some text => some (Files.Path.ofText ((value? text).getD "[]"))
  | none => settings.templateDir

/-- What a command line asks for, given the settings. -/
def ofTexts (settings : Settings) (texts : List String) : Except Stop Arguments := do
  let words ← (Word.ofTexts texts).mapError .usage
  let p ← readWords {} words
  match p.document with
  | none => .error (.usage .documentMissing)
  | some document =>
    if p.left.isEmpty then
      return {
        document := document
        outputDir := outputDirOf settings p.outputDir
        templateDir := templateDirOf settings p.templateDir
        logLevel := if p.verbose then "DEBUG" else settings.logLevel }
    else .error (.usage (.unrecognized p.left))

end Arguments
end ApiDiscovery.Program
