import ApiDiscovery.Pattern.Escape
import ApiDiscovery.Pattern.Width
import ApiDiscovery.Text.IdentifierTable
import ApiDiscovery.Text.Integer
import ApiDiscovery.Text.WordTable

/-!
# Reading patterns

A recursive descent over the tokens of a pattern: alternatives, sequences, and the items of a
sequence with their repetitions. The fuel bounds the depth of the descent; every step down takes a
token, so a pattern never runs out of it.
-/

namespace ApiDiscovery.Pattern.Parser

open Parse

/-! ## Sets -/

/-- The items without repetitions, in the order of their first occurrences. -/
def distinctItems : List SetItem → List SetItem
  | [] => []
  | item :: rest => item :: (distinctItems rest).filter fun other => other ≠ item

/-- The node for the members of a set. -/
def setNode (negated : Bool) (members : List SetItem) : Node :=
  match distinctItems members with
  | [.code n] => .single (if negated then .notCode n else .code n)
  | items => .single (.set negated items)

/-- The member that a token stands for. -/
def member (t : Token) : Parse SetItem :=
  match t with
  | .plain c => return .code c.toNat
  | .escaped c => Escape.member c
  | .dangling => return .code '\\'.toNat

/-- The range between two members. -/
def range (first last : Token) (a b : SetItem) : Parse SetItem := do
  let width := first.chars.length + 1 + last.chars.length
  match a, b with
  | .code low, .code high =>
    if high < low then fail (.badRange first.text last.text) width
    return .range low high
  | _, _ => fail (.badRange first.text last.text) width

/-- The members of a set up to its closing bracket; the set starts at `start`. A bracket that would
close an empty set is a member. -/
def setMembers (start : Nat) : Nat → List SetItem → Parse (List SetItem)
  | 0, read => return read.reverse
  | fuel + 1, read => do
    let unterminated : Parse (List SetItem) := do
      throw (.misplaced .unterminatedSet start)
    match ← take with
    | none => unterminated
    | some first =>
      if first.isPlain ']' && !read.isEmpty then return read.reverse
      let a ← member first
      if ← accept '-' then
        match ← take with
        | none => unterminated
        | some last =>
          if last.isPlain ']' then return (.code '-'.toNat :: a :: read).reverse
          let b ← member last
          setMembers start fuel ((← range first last a b) :: read)
      else setMembers start fuel (a :: read)

/-- A set after its opening bracket. -/
def set : Parse Node := do
  let s ← get
  let negated ← accept '^'
  return setNode negated (← setMembers (s.position - 1) (s.next.length + 1) [])

/-! ## Alternatives -/

/-- The two nodes are the same and match one text at a place, so that they can be taken out of
alternatives that both start with them. -/
def sameUnit : Node → Node → Bool
  | .single a, .single b => a == b
  | .anchor a, .anchor b => a == b
  | .backReference a, .backReference b => a == b
  | _, _ => false

/-- The node all alternatives start with. -/
def commonHead? : List (List Node) → Option Node
  | (node :: _) :: rest =>
    if rest.all fun body => (body.head?.map (sameUnit node)).getD false then some node else none
  | _ => none

/-- The members of a set that accepts what the alternatives accept, if each is one character. -/
def asMembers? : List (List Node) → Option (List SetItem)
  | [] => some []
  | [.single (.code n)] :: rest => (asMembers? rest).map (.code n :: ·)
  | [.single (.set false items)] :: rest => (asMembers? rest).map (items ++ ·)
  | _ => none

/-- The sequence for alternatives: common heads are taken out first. -/
def joinAlternatives : Nat → List (List Node) → List Node
  | 0, alternatives => [.branch alternatives]
  | fuel + 1, alternatives =>
    match commonHead? alternatives with
    | some node => node :: joinAlternatives fuel (alternatives.map (·.drop 1))
    | none =>
      match asMembers? alternatives with
      | some items => [.single (.set false (distinctItems items))]
      | none => [.branch alternatives]

/-- The sequence for one or several alternatives. -/
def alternation (alternatives : List (List Node)) : List Node :=
  match alternatives with
  | [body] => body
  | _ => joinAlternatives ((alternatives.map List.length).foldl max 0) alternatives

/-- A group that neither remembers nor switches anything is replaced by its body. -/
def splice : Node → List Node
  | .group none on off body =>
    if on.isEmpty && off.isEmpty then body else [.group none on off body]
  | node => [node]

/-! ## Repetitions -/

/-- The bounds of a repetition in braces: the least and the greatest number, each if given. -/
structure Bounds where
  least : List Char
  most : List Char

/-- The bounds after an opening brace, or none if the brace stands for itself. -/
def bounds? : Parse (Option Bounds) := do
  let before ← get
  let fuel := before.next.length
  let least ← takeWhile Escape.isDigit fuel
  let most ← if ← accept ',' then takeWhile Escape.isDigit fuel else pure least
  if ← accept '\x7d' then return some ⟨least, most⟩
  else
    modify fun _ => before
    return none

/-- The number that a bound stands for. -/
def boundValue (digits : List Char) : Parse Nat := do
  if Text.maxDigits < digits.length then throw (.hugeBound digits.length)
  let n := Escape.valueOf 10 digits
  if repeatBound ≤ n then throw .repetitionTooLarge
  return n

/-- The least and the greatest number of a repetition that starts with `sign`; none if an opening
brace starts no repetition. -/
def repetition? (sign : Char) (here : Nat) : Parse (Option (Nat × Option Nat)) := do
  match sign with
  | '?' => return some (0, some 1)
  | '*' => return some (0, none)
  | '+' => return some (1, none)
  | _ =>
    match ← peek with
    | some (.plain '\x7d') => return none
    | _ =>
      match ← bounds? with
      | none => return none
      | some b =>
        let least ← if b.least.isEmpty then pure 0 else boundValue b.least
        if b.most.isEmpty then return some (least, none)
        let most ← boundValue b.most
        if most < least then
          throw (.misplaced .leastAboveMost here)
        return some (least, some most)

/-- The body of a repetition of `node`. -/
def repeatedBody : Node → List Node
  | .group none on off body =>
    if on.isEmpty && off.isEmpty then body else [.group none on off body]
  | node => [node]

/-- How the items of a repetition are taken, from the sign after it. -/
def greed : Parse Greed := do
  if ← accept '?' then return .lazy
  if ← accept '+' then return .possessive
  return .greedy

/-- The repetition of the last node read. -/
def repeatLast (here : Nat) (least : Nat) (most : Option Nat) (read : List Node) :
    Parse (List Node) := do
  match read with
  | [] => throw (.misplaced .nothingToRepeat (here - 1))
  | node :: rest =>
    match node with
    | .anchor _ => throw (.misplaced .nothingToRepeat (here - 1))
    | .repetition _ _ _ _ => throw (.misplaced .multipleRepeat (here - 1))
    | _ =>
      return .repetition (← greed) least most (repeatedBody node) :: rest

/-! ## Flags -/

/-- The name is an identifier. -/
def isIdentifier (n : String) : Bool :=
  match n.toList with
  | [] => false
  | c :: rest =>
    Text.IdentifierTable.starting.contains c.toNat &&
      rest.all fun d => Text.IdentifierTable.continuing.contains d.toNat

/-- The token is a letter. -/
def isLetterToken : Token → Bool
  | .plain c => Text.isLetter c
  | _ => false

/-- The flag of a token; none if the token is no flag. -/
def flag? : Token → Option Flags
  | .plain c => Flags.ofLetter? c
  | _ => none

/-- Flags that are switched on, from the letter `t` on, up to the token after them. -/
def flagsOn : Nat → Flags → Token → Parse (Flags × Token)
  | 0, on, t => return (on, t)
  | fuel + 1, on, t => do
    if t.isPlain 'L' then fail .localeFlag
    match flag? t with
    | none => return (on, t)
    | some f =>
      let on := on.union f
      if on.ascii && on.unicode then fail .incompatibleFlags
      match ← take with
      | none => fail .missingFlagsEnd
      | some next =>
        if next.isPlain ')' || next.isPlain '-' || next.isPlain ':' then return (on, next)
        if (flag? next).isNone && !next.isPlain 'L' then
          fail (if isLetterToken next then .unknownFlag else .missingFlagsEnd) next.chars.length
        flagsOn fuel on next

/-- Flags that are switched off, from the letter `t` on, up to the colon. -/
def flagsOff : Nat → Flags → Token → Parse Flags
  | 0, off, _ => return off
  | fuel + 1, off, t => do
    if t.isPlain 'L' then fail .alphabetFlagOff
    match flag? t with
    | none => return off
    | some f =>
      if f.ascii || f.unicode then fail .alphabetFlagOff
      let off := off.union f
      match ← take with
      | none => fail .missingColon
      | some next =>
        if next.isPlain ':' then return off
        if (flag? next).isNone && !next.isPlain 'L' then
          fail (if isLetterToken next then .unknownFlag else .missingColon) next.chars.length
        flagsOff fuel off next

/-- The flags of a group that starts with the token `t`: none if they hold for the whole pattern,
and otherwise those switched on and off inside the group. -/
def groupFlags (t : Token) : Parse (Option (Flags × Flags)) := do
  let fuel := (← get).next.length + 1
  let (on, t) ← if t.isPlain '-' then pure (({} : Flags), t) else flagsOn fuel {} t
  if t.isPlain ')' then
    modify fun s => { s with flags := s.flags.union on }
    return none
  if on.template then fail .globalFlagOn 1
  let off ←
    if t.isPlain '-' then
      match ← take with
      | none => fail .missingFlag
      | some next =>
        if (flag? next).isNone && !next.isPlain 'L' then
          fail (if isLetterToken next then .unknownFlag else .missingFlag) next.chars.length
        flagsOff fuel {} next
    else pure {}
  if off.template then fail .globalFlagOff 1
  if on.meets off then fail .flagOnAndOff 1
  return some (on, off)

/-! ## Groups -/

/-- The name of a group; it is an identifier. -/
def groupName (terminator : Char) : Parse String := do
  let n ← name terminator "group name"
  if !isIdentifier n then fail (.badNameCharacter n) (n.length + 1)
  return n

/-- A reference to a group by name. -/
def namedReference : Parse Node := do
  let n ← groupName ')'
  match (← get).names.lookup n with
  | none => fail (.unknownName n) (n.length + 1)
  | some index =>
    if !(← isClosed index) then fail .openGroup (n.length + 1)
    checkLookbehind index
    return .backReference index

/-- The greatest number of groups. -/
def groupBound : Nat := 1073741823

/-- The group that a condition asks for, by name or by number. -/
def condition : Parse Nat := do
  let n ← name ')' "group name"
  let back := n.length + 1
  let index ←
    if isIdentifier n then
      match (← get).names.lookup n with
      | some index => pure index
      | none => fail (.unknownName n) back
    else
      match Text.integer? n.toList with
      | some (.ofNat index) =>
        if index == 0 then fail .badGroupNumber back
        if groupBound ≤ index then fail (.invalidReference index) back
        modify fun s =>
          if s.conditions.any (·.1 == index) then s
          else { s with conditions := s.conditions ++ [(index, s.position - n.length - 1)] }
        pure index
      | _ => fail (.badNameCharacter n) back
  checkLookbehind index
  return index

/-- A comment up to its closing parenthesis; the group starts at `start`. -/
def comment (start : Nat) : Nat → Parse Unit
  | 0 => return
  | fuel + 1 => do
    match ← peek with
    | none => throw (.misplaced .unterminatedComment start)
    | some _ =>
      match ← take with
      | some (.plain ')') => return
      | _ => comment start fuel

/-- In a verbose pattern, white space between the nodes. -/
def isVerboseSpace (c : Char) : Bool := c == ' ' || ('\t' ≤ c && c ≤ '\r')

/-- The rest of a line of a verbose pattern. -/
def lineComment : Nat → Parse Unit
  | 0 => return
  | fuel + 1 => do
    match ← take with
    | none => return
    | some (.plain '\n') => return
    | some _ => lineComment fuel

/-- The closing parenthesis of a group that starts at `start`. -/
def close (start : Nat) : Parse Unit := do
  if !(← accept ')') then throw (.misplaced .unterminatedGroup start)

mutual

/-- Alternatives up to a closing parenthesis or the end. A flag for the whole pattern may stand only
at the very start; `top` says that these are the alternatives of the whole pattern. -/
def alternatives : Nat → (verbose top : Bool) → (read : List (List Node)) → Parse (List Node)
  | 0, _, _, read => return alternation read.reverse
  | fuel + 1, verbose, top, read => do
    let body ← sequence fuel verbose (top && read.isEmpty) []
    let read := body :: read
    if ← accept '|' then
      let verbose ← if top then pure (← get).flags.verbose else pure verbose
      alternatives fuel verbose top read
    else return alternation read.reverse

/-- A sequence of nodes; those read so far are in reverse order. -/
def sequence : Nat → (verbose first : Bool) → (read : List Node) → Parse (List Node)
  | 0, _, _, read => return read.reverse.flatMap splice
  | fuel + 1, verbose, first, read => do
    match ← peek with
    | none => return read.reverse.flatMap splice
    | some t =>
      if t.isPlain '|' || t.isPlain ')' then return read.reverse.flatMap splice
      let _ ← take
      let s ← get
      match t with
      | .escaped c => sequence fuel verbose first ((← Escape.node c) :: read)
      | .dangling => sequence fuel verbose first read
      | .plain c =>
        if verbose && isVerboseSpace c then sequence fuel verbose first read
        else if verbose && c == '#' then
          lineComment (s.next.length + 1)
          sequence fuel verbose first read
        else
          match c with
          | '[' => sequence fuel verbose first ((← set) :: read)
          | '.' => sequence fuel verbose first (.single .any :: read)
          | '^' => sequence fuel verbose first (.anchor .lineStart :: read)
          | '$' => sequence fuel verbose first (.anchor .lineEnd :: read)
          | '(' =>
            let start := s.position - 1
            if ← accept '?' then extension fuel verbose first read start
            else
              let node ← capture fuel verbose start none
              sequence fuel verbose first (node :: read)
          | '*' | '+' | '?' | '\x7b' =>
            match ← repetition? c s.position with
            | none => sequence fuel verbose first (.single (.code c.toNat) :: read)
            | some (least, most) =>
              sequence fuel verbose first (← repeatLast s.position least most read)
          | _ => sequence fuel verbose first (.single (.code c.toNat) :: read)

/-- A group that remembers what it matched, after its opening. -/
def capture : Nat → (verbose : Bool) → (start : Nat) → (label : Option String) → Parse Node
  | 0, _, start, _ => throw (.misplaced .unterminatedGroup start)
  | fuel + 1, verbose, start, label => do
    let index ← openGroup label
    let body ← alternatives fuel verbose false []
    close start
    closeGroup index (width (← get).widths body)
    return .group (some index) {} {} body

/-- The alternatives of a group and its closing parenthesis. -/
def groupBody : Nat → (verbose : Bool) → (start : Nat) → Parse (List Node)
  | 0, _, start => throw (.misplaced .unterminatedGroup start)
  | fuel + 1, verbose, start => do
    let body ← alternatives fuel verbose false []
    close start
    return body

/-- A group whose opening parenthesis is followed by a question mark, and the rest of the sequence
after it. -/
def extension : Nat → (verbose first : Bool) → (read : List Node) → (start : Nat) →
    Parse (List Node)
  | 0, _, _, _, start => throw (.misplaced .unterminatedGroup start)
  | fuel + 1, verbose, first, read, start => do
    match ← take with
    | none => fail .unexpectedEnd
    | some t =>
      match t with
      | .plain 'P' =>
        match ← take with
        | none => fail .unexpectedEnd
        | some (.plain '<') =>
          let label ← groupName '>'
          let node ← capture fuel verbose start (some label)
          sequence fuel verbose first (node :: read)
        | some (.plain '=') =>
          let node ← namedReference
          sequence fuel verbose first (node :: read)
        | some next => fail (.unknownExtension ("P" ++ next.text)) (next.chars.length + 2)
      | .plain ':' =>
        let body ← groupBody fuel verbose start
        sequence fuel verbose first (.group none {} {} body :: read)
      | .plain '#' =>
        comment start ((← get).next.length + 1)
        sequence fuel verbose first read
      | .plain '=' =>
        let body ← groupBody fuel verbose start
        sequence fuel verbose first (.look true false body :: read)
      | .plain '!' =>
        let body ← groupBody fuel verbose start
        sequence fuel verbose first (.look true true body :: read)
      | .plain '<' =>
        match ← take with
        | none => fail .unexpectedEnd
        | some next =>
          if !next.isPlain '=' && !next.isPlain '!' then
            fail (.unknownExtension ("<" ++ next.text)) (next.chars.length + 2)
          -- Inside look-behinds within one another the outermost one counts.
          let outer := (← get).lookbehind
          modify fun s => { s with lookbehind := some (outer.getD s.widths.length) }
          let body ← alternatives fuel verbose false []
          modify fun s => { s with lookbehind := outer }
          close start
          sequence fuel verbose first (.look false (next.isPlain '!') body :: read)
      | .plain '(' =>
        let index ← condition
        let yes ← sequence fuel verbose false []
        let no ←
          if ← accept '|' then
            let no ← sequence fuel verbose false []
            match ← peek with
            | some (.plain '|') => fail .tooManyBranches
            | _ => pure (some no)
          else pure none
        close start
        sequence fuel verbose first (.conditional index yes no :: read)
      | .plain '>' =>
        let body ← groupBody fuel verbose start
        sequence fuel verbose first (.atomic body :: read)
      | _ =>
        if (flag? t).isNone && !t.isPlain 'L' && !t.isPlain '-' then
          fail (.unknownExtension t.text) (t.chars.length + 1)
        match ← groupFlags t with
        | none =>
          -- Flags without a body hold for the whole pattern, so nothing may stand before them.
          if !first || !read.isEmpty then throw (.misplaced .flagsNotAtStart start)
          sequence fuel (← get).flags.verbose first read
        | some (on, off) =>
          let body ← groupBody fuel ((verbose || on.verbose) && !off.verbose) start
          sequence fuel verbose first (.group none on off body :: read)

end

/-- The first condition on a group that the pattern does not have. -/
def missingGroup? (s : ParserState) : Option (Nat × Nat) :=
  s.conditions.find? fun c => s.widths.length ≤ c.1

/-- The whole pattern and the flags it ends with. -/
def whole : Parse (List Node) := do
  checkNext
  let fuel := 4 * (← get).next.length + 8
  let body ← alternatives fuel false true []
  if (← get).flags.ascii && (← get).flags.unicode then throw .alphabetConflict
  match ← peek with
  | some _ => fail .unbalanced
  | none =>
    match missingGroup? (← get) with
    | some (index, position) => throw (.misplaced (.invalidReference index) position)
    | none => return body

end ApiDiscovery.Pattern.Parser
