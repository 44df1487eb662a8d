import ApiDiscovery.Pattern.Matcher
import ApiDiscovery.Pattern.Opening
import ApiDiscovery.Pattern.Parser

/-!
# Searching for patterns

A pattern is read once from its text; it is found in a text if it matches from some place on. Which
places are tried depends on how the pattern opens and on its least width.
-/

namespace ApiDiscovery

/-- A pattern that was read: its steps and flags, how many marks they set, its least width and how
it opens. -/
structure Pattern where
  steps : List Pattern.Step
  flags : Pattern.Flags
  markCount : Nat
  least : Nat
  opening : Pattern.Opening

namespace Pattern

/-- What the parser knows at the start of a pattern. -/
def startState (text : List Char) : ParserState where
  next := tokens text
  position := 0
  length := text.length
  flags := {}
  widths := [none]
  names := []
  lookbehind := none
  conditions := []

/-- The pattern that nodes and flags make up, given the widths of the groups. -/
def ofNodes (groups : List (Option (Nat × Nat))) (flags : Flags) (nodes : List Node) :
    Except Fault Pattern :=
  match widthFault groups flags nodes with
  | some fault => .error fault
  | none =>
    let laidOut := layOut groups flags none nodes
    if lookbehindBound ≤ farthest laidOut then .error .wideLookbehind
    else
      let least := (width groups nodes).1
      .ok {
        steps := laidOut
        flags := flags
        markCount := Step.startMark groups.length
        least := least
        opening := Opening.ofNodes flags least nodes }

/-- The pattern with this text. -/
def ofText (text : String) : Except Fault Pattern :=
  match Parser.whole.run (startState text.toList) with
  | .error fault => .error fault
  | .ok (nodes, s) =>
    ofNodes s.widths (if s.flags.ascii then s.flags else { s.flags with unicode := true }) nodes

/-- The pattern matches the text from the offset on. -/
def matchesAt (p : Pattern) (text : Array Char) (position : Nat) : Bool :=
  let fuel := Matcher.depth text.size p.steps + 1
  (Matcher.sequence text fuel false p.steps position (Memory.start p.markCount)
    Matcher.done).found

/-- The pattern matches somewhere in the text. -/
def occursIn (p : Pattern) (text : String) : Bool :=
  let chars := text.toList.toArray
  (p.opening.places p.flags p.least chars).any fun position => p.matchesAt chars position

end Pattern
end ApiDiscovery
