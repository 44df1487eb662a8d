import ApiDiscovery.Pattern.Memory
import ApiDiscovery.Pattern.Step

/-!
# Matching by backtracking

Steps are matched at a place with a continuation that matches what follows; if the continuation
fails, the step tries its next way with what is left of the memory. A repetition goes on past its
least number only from a place it has not just been at, so that items that take no text do not
repeat forever. A possessive repetition goes on from where the text was read to last, which after a
failed item may lie beyond its start. The fuel bounds the depth of the search and is computed from
the steps and the text.
-/

namespace ApiDiscovery.Pattern.Matcher

open ApiDiscovery.Text

/-- What comes of trying a way: whether it matched, and the memory after it. -/
structure Attempt where
  found : Bool
  memory : Memory

/-- The way failed. -/
def failed (m : Memory) : Attempt := ⟨false, m⟩

/-- Matches what remains from a place on. -/
abbrev Continuation := Nat → Memory → Attempt

/-- Nothing remains to be matched. -/
def done : Continuation := fun position m => ⟨true, m.reach position⟩

/-- A failed attempt after which the text counts as read up to a place only. -/
def Attempt.orBackTo (a : Attempt) (position : Nat) : Attempt :=
  if a.found then a else failed (a.memory.reach position)

/-! ## Conditions on a place -/

/-- The code point at an offset. -/
def codeAt? (text : Array Char) (position : Nat) : Option Nat :=
  text[position]?.map Char.toNat

/-- The character at an offset is part of a word. -/
def isWordAt (text : Array Char) (flags : Flags) (position : Nat) : Bool :=
  match codeAt? text position with
  | some c => Category.word.holds flags c
  | none => false

/-- The place is between a word and what is no word. -/
def isBoundary (text : Array Char) (flags : Flags) (position : Nat) : Bool :=
  (0 < position && isWordAt text flags (position - 1)) != isWordAt text flags position

/-- The condition holds at the offset. Neither kind of boundary is in an empty text. -/
def anchorHolds (text : Array Char) (flags : Flags) (position : Nat) : Anchor → Bool
  | .textStart => position == 0
  | .textEnd => position == text.size
  | .lineStart =>
    position == 0 || (flags.multiLine && codeAt? text (position - 1) == some 0x0a)
  | .lineEnd =>
    position == text.size ||
      (codeAt? text position == some 0x0a && (flags.multiLine || position + 1 == text.size))
  | .boundary => text.size != 0 && isBoundary text flags position
  | .nonBoundary => text.size != 0 && !isBoundary text flags position

/-- The two code points are the same, without regard to case if the flags say so. -/
def sameCode (flags : Flags) (a b : Nat) : Bool :=
  if flags.ignoreCase then lowerCode flags a == lowerCode flags b else a == b

/-- The text from `position` on starts with the `count` characters from `start` on. -/
def repeats (text : Array Char) (flags : Flags) (start : Nat) : Nat → Nat → Bool
  | 0, _ => true
  | count + 1, position =>
    match codeAt? text start, codeAt? text position with
    | some a, some b => sameCode flags a b && repeats text flags (start + 1) count (position + 1)
    | _, _ => false

/-! ## Runs of single characters -/

/-- The character at an offset passes the test. -/
def passes (text : Array Char) (test : Test) (position : Nat) : Bool :=
  match codeAt? text position with
  | some c => test.accepts c
  | none => false

/-- How many characters from `position` on pass the test, up to a limit. -/
def runLength (text : Array Char) (test : Test) : Nat → Nat → Nat
  | 0, _ => 0
  | limit + 1, position =>
    if passes text test position then runLength text test limit (position + 1) + 1 else 0

/-- The memory after a run of characters was counted: letters are looked up by reading on. -/
def counted (m : Memory) (test : Test) (position length : Nat) : Memory :=
  if test.looksUpLetter then m.reach (position + length) else m.reach position

/-- Another item is allowed after `count` items. -/
def mayGoOn (count : Nat) : Option Nat → Bool
  | none => true
  | some most => count < most

/-- The greatest length of a run from a place on. -/
def runLimit (text : Array Char) (position : Nat) (most : Option Nat) : Nat :=
  match most with
  | none => text.size - position
  | some most => min most (text.size - position)

/-- Tries what follows a run, first after `extra` characters more than from `position` on and then
after ever fewer. Places where the code point that has to follow is not are passed over. -/
def giveBack (text : Array Char) (inside : Bool) (follower : Option Nat) (position : Nat)
    (next : Continuation) (saved : Memory) : Nat → Memory → Attempt
  | extra, m =>
    let here := position + extra
    let skipped := match follower with
      | some code => codeAt? text here != some code
      | none => false
    let a := if skipped then failed m else next here (m.reach here)
    if a.found then a
    else
      let m := if skipped then m else Memory.restore inside saved a.memory
      match extra with
      | 0 => failed m
      | fewer + 1 => giveBack text inside follower position next saved fewer m

/-- Tries what follows a run after `count` characters, and then after ever more of them, at most
`room`. -/
def takeMore (text : Array Char) (inside : Bool) (test : Test) (most : Option Nat)
    (next : Continuation) (saved : Memory) : (room count position : Nat) → Memory → Attempt
  | room, count, position, m =>
    let a := next position (m.reach position)
    if a.found then a
    else
      let m := Memory.restore inside saved a.memory
      match room with
      | 0 => failed (m.reach position)
      | room + 1 =>
        if passes text test position then
          let m := counted m test position 1
          if mayGoOn count most then
            takeMore text inside test most next saved room (count + 1) (position + 1) m
          else failed m
        else failed (m.reach position)

/-- Matches a run and what follows it. -/
def run (text : Array Char) (inside : Bool) (greed : Greed) (least : Nat) (most : Option Nat)
    (test : Test) (follower : Option Nat) (position : Nat) (m : Memory) (next : Continuation) :
    Attempt :=
  if text.size - position < least then failed m
  else
    match greed with
    | .greedy =>
      let length := runLength text test (runLimit text position most) position
      let m := counted m test position length
      if length < least then failed m
      else giveBack text inside follower (position + least) next m (length - least) m
    | .lazy =>
      let length := runLength text test least position
      let m := if least = 0 then m.reach position else counted m test position length
      if length < least then failed m
      else
        takeMore text inside test most next m (text.size - position - least) least
          (position + least) m
    | .possessive =>
      let length := runLength text test (runLimit text position most) position
      let m := counted m test position length
      if length < least then failed m else next (position + length) m

/-! ## Steps -/

/-- The alternative may match here, as far as its first character says. -/
def mayStart (text : Array Char) (position : Nat) : List Step → Bool
  | .take test :: _ =>
    if test.code?.isSome || test.isPlainSet then passes text test position else true
  | _ => true

mutual

/-- Matches steps, then what follows. `inside` says that they are in the body of a repetition. -/
def sequence (text : Array Char) :
    Nat → (inside : Bool) → List Step → (position : Nat) → Memory → Continuation → Attempt
  | 0, _, _, _, m, _ => failed m
  | _ + 1, _, [], position, m, next => next position m
  | fuel + 1, inside, step :: rest, position, m, next =>
    let goOn : Continuation := fun p m => sequence text fuel inside rest p m next
    match step with
    | .take test => if passes text test position then goOn (position + 1) m else failed m
    | .anchor place flags =>
      if anchorHolds text flags position place then goOn position m else failed m
    | .mark index => goOn position (m.mark index position)
    | .branch alternatives => branch text fuel inside alternatives position m m goOn
    | .atomic body =>
      let a := (sequence text fuel inside body position (m.reach position) done).orBackTo position
      if a.found then goOn a.memory.reached a.memory else a
    | .run greed least most test follower =>
      run text inside greed least most test follower position m goOn
    | .repetition .greedy least most body =>
      greedy text fuel least most body 0 none position m goOn
    | .repetition .lazy least most body =>
      sparing text fuel inside least most body 0 none position m goOn
    | .repetition .possessive least most body =>
      let a := (atLeast text fuel body least (m.reach position)).orBackTo position
      if a.found then
        let m := possessive text fuel most body least none a.memory
        goOn m.reached m
      else a
    | .backReference index flags =>
      match m.stretch? (Step.startMark index) (Step.endMark index) with
      | some (start, stop) =>
        if repeats text flags start (stop - start) position then
          goOn (position + (stop - start)) m
        else failed m
      | none => failed m
    | .conditional index yes no =>
      let known := (m.stretch? (Step.startMark index) (Step.endMark index)).isSome
      sequence text fuel inside (if known then yes else no) position m goOn
    | .look negated back body =>
      if position < back then if negated then goOn position m else failed m
      else
        let a := sequence text fuel inside body (position - back) (m.reach (position - back)) done
        match negated, a.found with
        | false, true => goOn position a.memory
        | true, false => goOn position (Memory.restore inside m a.memory)
        | _, _ => failed a.memory

/-- Matches the first alternative after which what follows matches too. -/
def branch (text : Array Char) :
    Nat → (inside : Bool) → List (List Step) → (position : Nat) → (saved m : Memory) →
      Continuation → Attempt
  | 0, _, _, _, _, m, _ => failed m
  | _ + 1, _, [], _, _, m, _ => failed m
  | fuel + 1, inside, body :: others, position, saved, m, next =>
    if mayStart text position body then
      let a := sequence text fuel inside body position (m.reach position) next
      if a.found then a
      else branch text fuel inside others position saved (Memory.restore inside saved a.memory) next
    else branch text fuel inside others position saved m next

/-- Matches an item as often as possible, giving items back until what follows matches. -/
def greedy (text : Array Char) :
    Nat → (least : Nat) → (most : Option Nat) → List Step → (count : Nat) → (last : Option Nat) →
      (position : Nat) → Memory → Continuation → Attempt
  | 0, _, _, _, _, _, _, m, _ => failed m
  | fuel + 1, least, most, body, count, last, position, m, next =>
    let m := m.reach position
    if count < least then
      (sequence text fuel true body position m fun p m =>
        greedy text fuel least most body (count + 1) last p m next).orBackTo position
    else
      -- An item that took no text is not tried again at the same place.
      let a :=
        if mayGoOn count most && last != some position then
          sequence text fuel true body position m fun p m =>
            greedy text fuel least most body (count + 1) (some position) p m next
        else failed m
      if a.found then a
      else (next position ((Memory.restore true m a.memory).reach position)).orBackTo position

/-- Matches an item as seldom as possible, taking another one until what follows matches. -/
def sparing (text : Array Char) :
    Nat → (inside : Bool) → (least : Nat) → (most : Option Nat) → List Step → (count : Nat) →
      (last : Option Nat) → (position : Nat) → Memory → Continuation → Attempt
  | 0, _, _, _, _, _, _, _, m, _ => failed m
  | fuel + 1, inside, least, most, body, count, last, position, m, next =>
    let m := m.reach position
    if count < least then
      (sequence text fuel true body position m fun p m =>
        sparing text fuel inside least most body (count + 1) last p m next).orBackTo position
    else
      let a := next position m
      if a.found then a
      else
        let m := (Memory.restore inside m a.memory).reach position
        -- An item that took no text is not tried again at the same place.
        if mayGoOn count most && last != some position then
          (sequence text fuel true body position m fun p m =>
            sparing text fuel inside least most body (count + 1) (some position) p m
              next).orBackTo position
        else failed m

/-- Matches an item a number of times, each in its first way for good. -/
def atLeast (text : Array Char) : Nat → List Step → (count : Nat) → Memory → Attempt
  | 0, _, _, m => failed m
  | _ + 1, _, 0, m => ⟨true, m⟩
  | fuel + 1, body, count + 1, m =>
    let a := sequence text fuel true body m.reached m done
    if a.found then atLeast text fuel body count a.memory else a

/-- Matches an item as often as possible, each in its first way for good. -/
def possessive (text : Array Char) :
    Nat → (most : Option Nat) → List Step → (count : Nat) → (last : Option Nat) → Memory → Memory
  | 0, _, _, _, _, m => m
  | fuel + 1, most, body, count, last, m =>
    -- An item that took no text is not tried again at the same place.
    if mayGoOn count most && last != some m.reached then
      let a := sequence text fuel true body m.reached m done
      if a.found then possessive text fuel most body (count + 1) (some m.reached) a.memory
      else Memory.restore true m a.memory
    else m

end

mutual

/-- A bound on the depth of the search for a step in a text of the given length. -/
def stepDepth (length : Nat) : Step → Nat
  | .branch alternatives => 1 + branchDepth length alternatives
  | .atomic body => 1 + depth length body
  | .repetition _ least _ body => least + length + 4 + depth length body
  | .conditional _ yes no => 1 + depth length yes + depth length no
  | .look _ _ body => 1 + depth length body
  | _ => 1

/-- A bound on the depth of the search for steps. -/
def depth (length : Nat) : List Step → Nat
  | [] => 1
  | step :: rest => 1 + stepDepth length step + depth length rest

/-- A bound on the depth of the search for alternatives. -/
def branchDepth (length : Nat) : List (List Step) → Nat
  | [] => 1
  | body :: rest => 1 + depth length body + branchDepth length rest

end

end ApiDiscovery.Pattern.Matcher
