/-!
# Cutting text at separators

`pieces p s` cuts a list at every element that satisfies `p`, keeping empty pieces, so joining
the pieces with the separator gives the list back. The parts of a path, of a query and of a
name are all pieces.
-/

namespace ApiDiscovery.Text

/-- The parts of a list between the elements that satisfy `isSeparator`, empty ones included. -/
def pieces {α : Type} (isSeparator : α → Bool) : List α → List (List α)
  | [] => [[]]
  | c :: rest =>
    if isSeparator c then [] :: pieces isSeparator rest
    else
      match pieces isSeparator rest with
      | [] => [[c]]
      | first :: others => (c :: first) :: others

/-- A list always has at least one piece. -/
theorem pieces_ne_nil {α : Type} (isSeparator : α → Bool) (s : List α) :
    pieces isSeparator s ≠ [] := by
  cases s with
  | nil => simp [pieces]
  | cons c rest =>
    unfold pieces
    split
    · simp
    · split <;> simp

/-- The part before the first element that satisfies `isSeparator` and the part after it, if
there is such an element. -/
def cutFirst {α : Type} (isSeparator : α → Bool) : List α → List α × Option (List α)
  | [] => ([], none)
  | c :: rest =>
    if isSeparator c then ([], some rest)
    else
      let (before, after) := cutFirst isSeparator rest
      (c :: before, after)

/-- The part before the last element that satisfies `isSeparator` and the part after it, if there
is such an element. -/
def cutLast {α : Type} (isSeparator : α → Bool) (s : List α) : Option (List α × List α) :=
  match cutFirst isSeparator s.reverse with
  | (after, some before) => some (before.reverse, after.reverse)
  | (_, none) => none

/-- The text cut at every occurrence of one character. -/
def splitAt (separator : Char) (s : String) : List String :=
  (pieces (· == separator) s.toList).map String.ofList

/-- The texts joined with one separator between neighbours. -/
def joinWith (separator : String) (parts : List String) : String :=
  String.intercalate separator parts

end ApiDiscovery.Text
