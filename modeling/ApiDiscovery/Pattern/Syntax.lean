/-!
# Patterns

A pattern is a sequence of nodes. Each node says which texts it accepts from a place on; groups
switch flags for their bodies and remember what they matched.
-/

namespace ApiDiscovery.Pattern

/-- The switches of a pattern. `ascii` and `unicode` choose the alphabet of the classes; `template`
forbids repetition. -/
structure Flags where
  ignoreCase : Bool := false
  multiLine : Bool := false
  dotAll : Bool := false
  verbose : Bool := false
  ascii : Bool := false
  unicode : Bool := false
  template : Bool := false
  deriving DecidableEq, Repr

namespace Flags

/-- The flags set in either. -/
def union (a b : Flags) : Flags where
  ignoreCase := a.ignoreCase || b.ignoreCase
  multiLine := a.multiLine || b.multiLine
  dotAll := a.dotAll || b.dotAll
  verbose := a.verbose || b.verbose
  ascii := a.ascii || b.ascii
  unicode := a.unicode || b.unicode
  template := a.template || b.template

/-- The flags of the first that are not in the second. -/
def without (a b : Flags) : Flags where
  ignoreCase := a.ignoreCase && !b.ignoreCase
  multiLine := a.multiLine && !b.multiLine
  dotAll := a.dotAll && !b.dotAll
  verbose := a.verbose && !b.verbose
  ascii := a.ascii && !b.ascii
  unicode := a.unicode && !b.unicode
  template := a.template && !b.template

/-- No flag is set. -/
def isEmpty (a : Flags) : Bool := a == {}

/-- Some flag is set in both. -/
def meets (a b : Flags) : Bool := a.without b != a

/-- The flags inside a group that sets `on` and clears `off`; an alphabet replaces the other. -/
def inside (a on off : Flags) : Flags :=
  let base := if on.ascii || on.unicode then { a with ascii := false, unicode := false } else a
  (base.union on).without off

/-- The flag of a letter. -/
def ofLetter? (c : Char) : Option Flags :=
  match c with
  | 'i' => some { ignoreCase := true }
  | 'm' => some { multiLine := true }
  | 's' => some { dotAll := true }
  | 'x' => some { verbose := true }
  | 'a' => some { ascii := true }
  | 'u' => some { unicode := true }
  | 't' => some { template := true }
  | _ => none

end Flags

/-- A named class of characters. -/
inductive Category where
  | digit
  | space
  | word
  deriving DecidableEq, Repr

/-- A member of a character set. -/
inductive SetItem where
  | code (code : Nat)
  | range (first last : Nat)
  | category (negated : Bool) (kind : Category)
  deriving DecidableEq, Repr

/-- What takes exactly one character: a code point, any other one, any character, or a set. -/
inductive Single where
  | code (code : Nat)
  | notCode (code : Nat)
  | any
  | set (negated : Bool) (members : List SetItem)
  deriving DecidableEq, Repr

/-- A condition on a place in the text. -/
inductive Anchor where
  | lineStart
  | lineEnd
  | textStart
  | textEnd
  | boundary
  | nonBoundary
  deriving DecidableEq, Repr

/-- How a repetition takes its items: as many as possible, as few as possible, or as many as
possible without giving any back. -/
inductive Greed where
  | greedy
  | lazy
  | possessive
  deriving DecidableEq, Repr

/-- A part of a pattern. -/
inductive Node where
  | single (what : Single)
  | anchor (place : Anchor)
  | branch (alternatives : List (List Node))
  | group (index : Option Nat) (on off : Flags) (body : List Node)
  | atomic (body : List Node)
  | repetition (greed : Greed) (least : Nat) (most : Option Nat) (body : List Node)
  | backReference (index : Nat)
  | conditional (index : Nat) (yes : List Node) (no : Option (List Node))
  | look (ahead negated : Bool) (body : List Node)
  deriving Inhabited, Repr

end ApiDiscovery.Pattern
