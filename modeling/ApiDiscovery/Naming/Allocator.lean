/-!
# Distinct names

An allocator hands out names that are neither taken nor given before: the wanted name itself, or
else the wanted name with the least number from two that is still free.
-/

namespace ApiDiscovery.Naming

/-- The names in use, each with the last number tried for it. -/
structure Allocator where
  seen : List (String × Nat)
  deriving Repr

namespace Allocator

/-- An allocator for which the given names are taken. -/
def ofTaken (taken : List String) : Allocator :=
  ⟨taken.map fun name => (name, 1)⟩

/-- The last number tried for a name in use. -/
def count? (a : Allocator) (name : String) : Option Nat := a.seen.lookup name

/-- The name is in use. -/
def uses (a : Allocator) (name : String) : Bool := (a.count? name).isSome

/-- The name with a number after it. -/
def numbered (name : String) (n : Nat) : String := name ++ "_" ++ toString n

/-- The first number from `n` on whose name is free; with no fuel left, `n` itself. -/
def freeNumber (a : Allocator) (name : String) : Nat → Nat → Nat
  | 0, n => n
  | fuel + 1, n => if a.uses (numbered name n) then freeNumber a name fuel (n + 1) else n

/-- The name handed out for `name`, and the allocator after it. The search for a free number ends
within as many steps as there are names in use. -/
def allocate (a : Allocator) (name : String) : String × Allocator :=
  match a.count? name with
  | none => (name, ⟨(name, 1) :: a.seen⟩)
  | some last =>
    let n := freeNumber a name a.seen.length (last + 1)
    let chosen := numbered name n
    (chosen, ⟨(chosen, 1) :: (name, n) :: a.seen⟩)

/-- The names handed out for a list of wanted names in turn. -/
def allocateAll (a : Allocator) : List String → List String
  | [] => []
  | name :: rest =>
    let (chosen, next) := a.allocate name
    chosen :: next.allocateAll rest

end Allocator
end ApiDiscovery.Naming
