import ApiDiscovery.Text.CompositionTable

/-!
# Composed form of text

A letter with marks can be written in several ways. In the composed form the marks after a letter
stand in the order of their classes and every mark that can be taken into the letter is. Syllables
of Hangul are letters here and are never taken apart.
-/

namespace ApiDiscovery.Text

/-- The class of a mark; zero for letters. -/
def combiningClass (code : Nat) : Nat :=
  match CompositionTable.classes.find? fun r => r.1 ≤ code && code ≤ r.2.1 with
  | some r => r.2.2
  | none => 0

/-- The two characters of which a character is composed. -/
def parts? (code : Nat) : Option (Nat × Nat) := CompositionTable.composites.lookup code

/-- The character composed of two others. -/
def composite? (first second : Nat) : Option Nat :=
  (CompositionTable.composites.find? fun r => r.2.1 = first && r.2.2 = second).map Prod.fst

/-- A character taken apart, down to `depth` compositions within one another. -/
def takeApart : Nat → Nat → List Nat
  | 0, code => [code]
  | depth + 1, code =>
    match parts? code with
    | some (first, second) => takeApart depth first ++ [second]
    | none => [code]

/-- Puts a mark before the marks of a higher class that stand at the start of the list. -/
def insertMark (code : Nat) : List Nat → List Nat
  | [] => [code]
  | other :: rest =>
    if combiningClass other ≠ 0 ∧ combiningClass other < combiningClass code then
      other :: insertMark code rest
    else code :: other :: rest

/-- The characters with the marks after each letter in the order of their classes. -/
def orderMarks : List Nat → List Nat
  | [] => []
  | code :: rest =>
    if combiningClass code = 0 then code :: orderMarks rest
    else insertMark code (orderMarks rest)

/-- The composed form of a letter, the marks that follow it and could not be taken into it, in
reverse, and the characters after them. -/
def composeFrom (letter : Nat) (marks : List Nat) : List Nat → List Nat
  | [] => letter :: marks.reverse
  | code :: rest =>
    let blocked :=
      match marks with
      | [] => false
      | last :: _ => combiningClass code ≤ combiningClass last
    match if blocked then none else composite? letter code with
    | some whole => composeFrom whole marks rest
    | none =>
      if combiningClass code = 0 then letter :: (marks.reverse ++ composeFrom code [] rest)
      else composeFrom letter (code :: marks) rest

/-- The composed form; no character is composed more than four deep. -/
def compose (codes : List Nat) : List Nat :=
  match orderMarks (codes.flatMap (takeApart 4)) with
  | [] => []
  | first :: rest => composeFrom first [] rest

/-- The text is in composed form. -/
def isComposed (s : List Char) : Bool := compose (s.map Char.toNat) == s.map Char.toNat

end ApiDiscovery.Text
