import ApiDiscovery.Text.Integer
import ApiDiscovery.Text.Quoted
import ApiDiscovery.Pattern.Syntax

/-!
# Faults in patterns

Why a text is no pattern. Most faults have a place in the text, counted in characters; a pattern of
several lines has the line and the column too.
-/

namespace ApiDiscovery.Pattern

/-- What is wrong at a place of a pattern. -/
inductive Reason where
  | danglingEscape
  | missingName (what : String)
  | unterminatedName (terminator : Char)
  | incompleteEscape (escape : String)
  | badEscape (escape : String)
  | missingBrace
  | undefinedCharacter (name : String)
  | octalRange (escape : String)
  | openGroup
  | lookbehindGroup
  | invalidReference (index : Nat)
  | badNameCharacter (name : String)
  | unterminatedSet
  | badRange (first last : String)
  | leastAboveMost
  | nothingToRepeat
  | multipleRepeat
  | unexpectedEnd
  | unknownName (name : String)
  | unknownExtension (text : String)
  | unterminatedComment
  | unterminatedGroup
  | badGroupNumber
  | tooManyBranches
  | flagsNotAtStart
  | redefinedName (name : String) (index earlier : Nat)
  | unbalanced
  | localeFlag
  | incompatibleFlags
  | missingFlagsEnd
  | unknownFlag
  | globalFlagOn
  | globalFlagOff
  | missingFlag
  | alphabetFlagOff
  | missingColon
  | flagOnAndOff
  deriving DecidableEq, Repr

/-- The words for a reason. -/
def Reason.message : Reason → String
  | danglingEscape => "bad escape (end of pattern)"
  | missingName what => "missing " ++ what
  | unterminatedName terminator =>
    "missing " ++ String.ofList [terminator] ++ ", unterminated name"
  | incompleteEscape escape => "incomplete escape " ++ escape
  | badEscape escape => "bad escape " ++ escape
  | missingBrace => "missing \x7b"
  | undefinedCharacter name => "undefined character name " ++ Text.quoted name
  | octalRange escape => "octal escape value " ++ escape ++ " outside of range 0-0o377"
  | openGroup => "cannot refer to an open group"
  | lookbehindGroup => "cannot refer to group defined in the same lookbehind subpattern"
  | invalidReference index => "invalid group reference " ++ toString index
  | badNameCharacter name => "bad character in group name " ++ Text.quoted name
  | unterminatedSet => "unterminated character set"
  | badRange first last => "bad character range " ++ first ++ "-" ++ last
  | leastAboveMost => "min repeat greater than max repeat"
  | nothingToRepeat => "nothing to repeat"
  | multipleRepeat => "multiple repeat"
  | unexpectedEnd => "unexpected end of pattern"
  | unknownName name => "unknown group name " ++ Text.quoted name
  | unknownExtension text => "unknown extension ?" ++ text
  | unterminatedComment => "missing ), unterminated comment"
  | unterminatedGroup => "missing ), unterminated subpattern"
  | badGroupNumber => "bad group number"
  | tooManyBranches => "conditional backref with more than two branches"
  | flagsNotAtStart => "global flags not at the start of the expression"
  | redefinedName name index earlier =>
    "redefinition of group name " ++ Text.quoted name ++ " as group " ++ toString index ++
      "; was group " ++ toString earlier
  | unbalanced => "unbalanced parenthesis"
  | localeFlag => "bad inline flags: cannot use 'L' flag with a str pattern"
  | incompatibleFlags => "bad inline flags: flags 'a', 'u' and 'L' are incompatible"
  | missingFlagsEnd => "missing -, : or )"
  | unknownFlag => "unknown flag"
  | globalFlagOn => "bad inline flags: cannot turn on global flag"
  | globalFlagOff => "bad inline flags: cannot turn off global flag"
  | missingFlag => "missing flag"
  | alphabetFlagOff => "bad inline flags: cannot turn off flags 'a', 'u' and 'L'"
  | missingColon => "missing :"
  | flagOnAndOff => "bad inline flags: flag turned on and off"

/-- Why a text is no pattern. The last five are limits of patterns and not faults of their form. -/
inductive Fault where
  | misplaced (reason : Reason) (position : Nat)
  | variableLookbehind
  | templateRepeat (greed : Greed)
  | repetitionTooLarge
  | hugeBound (digits : Nat)
  | codeTooLarge
  | alphabetConflict
  | wideLookbehind
  deriving DecidableEq, Repr

/-- The fault is a limit of patterns. -/
def Fault.isLimit : Fault → Bool
  | misplaced _ _ => false
  | variableLookbehind => false
  | templateRepeat _ => false
  | _ => true

/-- A place in a text in words: the offset, and the line and column if there are several lines. -/
def placeText (text : List Char) (position : Nat) : String :=
  let before := text.take position
  let line := (before.filter (· == '\n')).length + 1
  let column := (before.reverse.takeWhile (· != '\n')).length + 1
  let place := " at position " ++ toString position
  if text.contains '\n' then
    place ++ " (line " ++ toString line ++ ", column " ++ toString column ++ ")"
  else place

/-- The words for a fault in the pattern `text`. -/
def Fault.message (text : String) : Fault → String
  | misplaced reason position => reason.message ++ placeText text.toList position
  | variableLookbehind => "look-behind requires fixed-width pattern"
  | templateRepeat greed =>
    "internal: unsupported template operator " ++
      (match greed with
        | .greedy => "MAX_REPEAT"
        | .lazy => "MIN_REPEAT"
        | .possessive => "POSSESSIVE_REPEAT")
  | repetitionTooLarge => "the repetition number is too large"
  | hugeBound digits => Text.tooManyDigits digits
  | codeTooLarge => "the code of a character is too large"
  | alphabetConflict => "ASCII and UNICODE flags are incompatible"
  | wideLookbehind => "invalid SRE code"

end ApiDiscovery.Pattern
