/-!
# What a match remembers

While a match is tried the places where groups start and end are marked, and the place up to which
the text was read last is kept. Marks count only up to a number that falls back when a way fails, so
a mark that was set on such a way is not seen again; whether its place is taken back too depends on
where it was set.
-/

namespace ApiDiscovery.Pattern

/-- The marks with the number of those that count, and the place the text was read to last. -/
structure Memory where
  marks : Array (Option Nat)
  valid : Nat
  reached : Nat
  deriving Repr

namespace Memory

/-- Nothing is remembered yet; there is room for `size` marks. -/
def start (size : Nat) : Memory := ⟨Array.replicate size none, 0, 0⟩

/-- The marks with those from `first` on, `count` of them, taken away. -/
def clear (first : Nat) : Nat → Array (Option Nat) → Array (Option Nat)
  | 0, marks => marks
  | count + 1, marks => clear (first + 1) count (marks.setIfInBounds first none)

/-- Sets a mark; marks between it and those that count were never set. -/
def mark (m : Memory) (index position : Nat) : Memory :=
  let marks := clear m.valid (index - m.valid) m.marks
  { m with
    marks := marks.setIfInBounds index (some position)
    valid := max m.valid (index + 1) }

/-- The text was read up to here. -/
def reach (m : Memory) (position : Nat) : Memory := { m with reached := position }

/-- What is left of `now` when the way since `saved` is given up. The places of the marks that
counted then are taken back only if `all` says so. -/
def restore (all : Bool) (saved now : Memory) : Memory :=
  { now with
    marks := if all then saved.marks else now.marks
    valid := saved.valid }

/-- The place of a mark that counts. -/
def place? (m : Memory) (index : Nat) : Option Nat :=
  if index < m.valid then m.marks[index]?.join else none

/-- The stretch between two marks, if both count and are in order. -/
def stretch? (m : Memory) (first last : Nat) : Option (Nat × Nat) :=
  match m.place? first, m.place? last with
  | some start, some stop => if start ≤ stop then some (start, stop) else none
  | _, _ => none

end Memory
end ApiDiscovery.Pattern
