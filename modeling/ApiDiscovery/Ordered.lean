/-!
# Ordered maps

A map from names that keeps the order in which its names were first added is a list of pairs. The
first pair of a name counts; adding a value for a name that is there replaces its value in place.
-/

namespace ApiDiscovery

/-- A map from names with its names in order. -/
abbrev Ordered (α : Type) := List (String × α)

namespace Ordered

variable {α : Type}

/-- The names in order. -/
def names (m : Ordered α) : List String := m.map Prod.fst

/-- The value of a name. -/
def get? (m : Ordered α) (name : String) : Option α := m.lookup name

/-- The map has the name. -/
def has (m : Ordered α) (name : String) : Bool := (m.get? name).isSome

/-- The map with a value for a name: in place of the old one, or at the end. -/
def insert (name : String) (value : α) : Ordered α → Ordered α
  | [] => [(name, value)]
  | (other, old) :: rest =>
    if other = name then (other, value) :: rest else (other, old) :: insert name value rest

/-- The map with the pairs of a second one added in order. -/
def insertAll (m : Ordered α) : Ordered α → Ordered α
  | [] => m
  | (name, value) :: rest => insertAll (insert name value m) rest

end Ordered
end ApiDiscovery
