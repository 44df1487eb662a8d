import ApiDiscovery.Naming.Allocator
import ApiDiscovery.Source.Class

/-!
# Accessors of resources

A class gives access to the resources below it by properties: each reads an attribute that holds an
object of the class of the resource. The properties get names that the class does not use yet.
-/

namespace ApiDiscovery.Source

/-- A resource below a class: its name and its dotted path. -/
structure Child where
  name : String
  path : String

/-- The operations that add an accessor called `property`, whose object belongs to `owner`. -/
def accessor (owner property : String) (child : Child) : List Class.Operation :=
  let className := Naming.resourceClass child.path
  [.backingField property (className ++ "(" ++ owner ++ ")"),
   .readOnlyProperty property className ("self." ++ Naming.backingField property)
    ("The " ++ Text.quoted child.path ++ " resource.")]

/-- The operations that add accessors for children, with names from an allocator. -/
def accessorsFrom (owner : String) (names : Naming.Allocator) : List Child → List Class.Operation
  | [] => []
  | child :: rest =>
    let (property, names) := names.allocate (Naming.identifier child.name)
    accessor owner property child ++ accessorsFrom owner names rest

/-- The operations that add accessors for children to a class. -/
def accessors (c : Class) (owner : String) (children : List Child) : List Class.Operation :=
  accessorsFrom owner (Naming.Allocator.ofTaken c.names) children

end ApiDiscovery.Source
