import ApiDiscovery.Pattern.Fold
import ApiDiscovery.Pattern.Width

/-!
# Steps of a match

A pattern is laid out as steps before it is matched. The flags of a group are handed down to the
steps in it, a group that remembers what it matched becomes the two marks around its steps, and a
repetition of one character becomes a run, which is counted and not searched.
-/

namespace ApiDiscovery.Pattern

/-- A test of one character. -/
structure Test where
  what : Single
  flags : Flags
  deriving DecidableEq, Repr

namespace Test

/-- The code point passes the test. -/
def accepts (t : Test) (m : Nat) : Bool := t.what.accepts t.flags m

/-- The code point that alone passes the test, as it is. -/
def code? (t : Test) : Option Nat :=
  match t.what with
  | .code n => if codeFolds t.flags n then none else some n
  | _ => none

/-- The test asks for a member of a set, as it is. -/
def isPlainSet (t : Test) : Bool :=
  match t.what with
  | .set _ members => !setFolds t.flags members
  | _ => false

/-- The test looks a small letter up in a set of letters. -/
def looksUpLetter (t : Test) : Bool :=
  match t.what with
  | .code n => codeFolds t.flags n && !(equivalents t.flags (lowerCode t.flags n)).isEmpty
  | .notCode n => codeFolds t.flags n && !(equivalents t.flags (lowerCode t.flags n)).isEmpty
  | .any => false
  | .set _ members => setFolds t.flags members

end Test

/-- A step of a match. A run has the code point that has to follow it, if only one can. -/
inductive Step where
  | take (test : Test)
  | anchor (place : Anchor) (flags : Flags)
  | mark (index : Nat)
  | branch (alternatives : List (List Step))
  | atomic (body : List Step)
  | run (greed : Greed) (least : Nat) (most : Option Nat) (test : Test) (follower : Option Nat)
  | repetition (greed : Greed) (least : Nat) (most : Option Nat) (body : List Step)
  | backReference (index : Nat) (flags : Flags)
  | conditional (index : Nat) (yes no : List Step)
  | look (negated : Bool) (back : Nat) (body : List Step)
  deriving Repr

namespace Step

/-- The code point that has to stand where the steps start, if only one can; `follower` is that of
what comes after them. -/
def firstCode? (follower : Option Nat) : List Step → Option Nat
  | [] => follower
  | .take test :: _ => test.code?
  | _ => none

/-- The marks around what the group with this number matches. -/
def startMark (index : Nat) : Nat := 2 * (index - 1)

/-- The mark at the end of what the group with this number matches. -/
def endMark (index : Nat) : Nat := startMark index + 1

end Step

/-- The test of a sequence that takes one character and does nothing else. -/
def onlyTest? (flags : Flags) : List Node → Option Test
  | [.single what] => some ⟨what, flags⟩
  | [.group none on off body] => onlyTest? (flags.inside on off) body
  | _ => none

mutual

/-- The steps of a node, given the widths of the groups, the flags, and the code point that has to
follow the node if only one can. -/
def Node.layOut (groups : List (Option (Nat × Nat))) (flags : Flags) (follower : Option Nat) :
    Node → List Step
  | .single what => [.take ⟨what, flags⟩]
  | .anchor place => [.anchor place flags]
  | .branch alternatives => [.branch (layOutEach groups flags alternatives)]
  | .group none on off body => layOut groups (flags.inside on off) follower body
  | .group (some index) on off body =>
    .mark (Step.startMark index) :: layOut groups (flags.inside on off) none body ++
      [.mark (Step.endMark index)]
  | .atomic body => [.atomic (layOut groups flags none body)]
  | .repetition greed least most body =>
    match onlyTest? flags body with
    | some test => [.run greed least most test follower]
    | none => [.repetition greed least most (layOut groups flags none body)]
  | .backReference index => [.backReference index flags]
  | .conditional index yes no =>
    match no with
    | some (node :: rest) =>
      [.conditional index (layOut groups flags none yes)
        (layOut groups flags follower (node :: rest))]
    | _ => [.conditional index (layOut groups flags follower yes) []]
  | .look ahead negated body =>
    let back := if ahead then 0 else (width groups body).1
    [.look negated back (layOut groups flags none body)]

/-- The steps of a sequence. -/
def layOut (groups : List (Option (Nat × Nat))) (flags : Flags) (follower : Option Nat) :
    List Node → List Step
  | [] => []
  | node :: rest =>
    let after := layOut groups flags follower rest
    node.layOut groups flags (Step.firstCode? follower after) ++ after

/-- The steps of each alternative. -/
def layOutEach (groups : List (Option (Nat × Nat))) (flags : Flags) :
    List (List Node) → List (List Step)
  | [] => []
  | body :: rest => layOut groups flags none body :: layOutEach groups flags rest

end

mutual

/-- How far a step looks behind at most. -/
def Step.farthest : Step → Nat
  | .branch alternatives => farthestBranch alternatives
  | .atomic body => farthest body
  | .repetition _ _ _ body => farthest body
  | .conditional _ yes no => max (farthest yes) (farthest no)
  | .look _ back body => max back (farthest body)
  | _ => 0

/-- How far the steps look behind at most. -/
def farthest : List Step → Nat
  | [] => 0
  | step :: rest => max step.farthest (farthest rest)

/-- How far the alternatives look behind at most. -/
def farthestBranch : List (List Step) → Nat
  | [] => 0
  | body :: rest => max (farthest body) (farthestBranch rest)

end

end ApiDiscovery.Pattern
