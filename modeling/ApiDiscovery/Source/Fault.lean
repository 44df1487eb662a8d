import ApiDiscovery.Discovery.Fault

/-!
# Faults in generated classes

Why a member is not added to a class, and why a module is not made for a document.
-/

namespace ApiDiscovery.Source

/-- The kinds of members that a class is asked to add. -/
inductive MemberKind where
  | field
  | property
  | method
  deriving DecidableEq, Repr

/-- The name of a kind of members. -/
def MemberKind.name : MemberKind → String
  | field => "field"
  | property => "property"
  | method => "method"

/-- Why a member is not added or a module is not made. -/
inductive Fault where
  | noClass
  | emptyName (kind : MemberKind)
  | usedName (kind : MemberKind) (name className : String)
  | duplicateClass (path className : String)
  | document (fault : Discovery.Fault)

/-- The words for a fault. -/
def Fault.message : Fault → String
  | noClass => "class model is required"
  | emptyName kind => kind.name ++ " name must not be empty"
  | usedName kind name className =>
    "the " ++ kind.name ++ " name [" ++ name ++ "] was already used within " ++ className
  | duplicateClass path className =>
    "resource " ++ Text.quoted path ++ " maps to duplicate class name " ++ className
  | document fault => fault.message

/-- A value of the wrong shape. -/
def Fault.shape : Fault := .document .shape

/-- An outcome of the document model as one of a module. -/
def ofDiscovery {α : Type} (outcome : Except Discovery.Fault α) : Except Fault α :=
  outcome.mapError .document

end ApiDiscovery.Source
