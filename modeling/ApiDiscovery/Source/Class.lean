import ApiDiscovery.Json.Layout
import ApiDiscovery.Naming.Identifier
import ApiDiscovery.Ordered
import ApiDiscovery.Schema.Argument
import ApiDiscovery.Source.Fault

/-!
# Classes to generate

A class has fields, properties and methods, which are its members, and attributes that its
initialiser assigns. No two of them share a name: an operation adds one member, and a property that
can be set adds the attribute behind it too, or the class stays as it is.
-/

namespace ApiDiscovery.Source

/-- A constant of a class. -/
structure Field where
  name : String
  value : Json

/-- The value of a field in source text. -/
def Field.literal (f : Field) : String := f.value.sourceLiteral

/-- A property of a class; one that can be set writes the attribute `field`. -/
structure Property where
  name : String
  type : String
  doc : String := ""
  field : Option String := none
  getter : Option String := none
  settable : Bool := false

/-- What reading a property gives: its getter, or the attribute behind it. -/
def Property.expression (p : Property) : String :=
  match p.getter with
  | some getter => if getter = "" then "self." ++ p.field.getD "None" else getter
  | none => "self." ++ p.field.getD "None"

/-- A method of a class, which calls a method of the service. -/
structure Method where
  name : String
  resource : String
  discoveryName : String
  rpcName : Json
  verb : String
  arguments : List Schema.Argument
  doc : String := ""
  requestType : Json := .null
  responseType : Json := .str "none"
  beforeExecute : List String := []
  afterExecute : List String := []

/-- A class to generate. -/
structure Class where
  name : String
  bases : List String := []
  doc : Json := .str ""
  fields : List Field := []
  properties : List Property := []
  methods : List Method := []
  attributes : Ordered String := []
  initArgs : String := ""
  initLines : List String := []

/-- A member of a class, or an attribute. -/
inductive Member where
  | field (field : Field)
  | property (property : Property)
  | method (method : Method)
  | backing (name : String)

namespace Class

/-! ## Names -/

/-- The names of fields, properties and methods in this order. -/
def memberNames (c : Class) : List String :=
  c.fields.map Field.name ++ c.properties.map Property.name ++ c.methods.map Method.name

/-- All names of a class. -/
def names (c : Class) : List String := c.memberNames ++ Ordered.names c.attributes

/-- The class has a member or an attribute with this name. -/
def uses (c : Class) (name : String) : Bool := c.names.contains name

/-- The first member with this name. -/
def find? (c : Class) (name : String) : Option Member :=
  match c.fields.find? fun f => f.name = name with
  | some field => some (.field field)
  | none =>
    match c.properties.find? fun p => p.name = name with
    | some property => some (.property property)
    | none => (c.methods.find? fun m => m.name = name).map .method

/-- Passes if a member of this kind may have the name. -/
def checkName (c : Class) (kind : MemberKind) (name : String) : Except Fault Unit :=
  if name = "" then .error (.emptyName kind)
  else if c.uses name then .error (.usedName kind name c.name)
  else .ok ()

/-! ## Operations -/

/-- Steps on a class in place: what they give or the fault that ends them, and the class then. What
a step has done stays done if a later one fails. -/
abbrev Edit (α : Type) : Type := EStateM Fault Class α

/-- Passes if a member of this kind may have the name in the class as it is then. -/
def check (kind : MemberKind) (name : String) : Edit Unit := fun c =>
  match c.checkName kind name with
  | .ok () => .ok () c
  | .error fault => .error fault c

/-- Adds a field. -/
def addField (name : String) (value : Json) : Edit Field := do
  check .field name
  let field : Field := ⟨name, value⟩
  modify fun c => { c with fields := c.fields ++ [field] }
  return field

/-- Adds the attribute behind the property `name`. -/
def addBackingField (name initial : String) : Edit String := do
  let backing := Naming.backingField name
  check .field backing
  modify fun c => { c with attributes := Ordered.insert backing initial c.attributes }
  return backing

/-- Adds a property that can be set, and the attribute behind it. -/
def addAutoProperty (name type doc initial : String) : Edit Property := do
  check .property name
  let backing ← addBackingField name initial
  let property : Property :=
    { name := name, type := type, doc := doc, field := some backing, settable := true }
  modify fun c => { c with properties := c.properties ++ [property] }
  return property

/-- Adds a property that gives the value of an expression. -/
def addReadOnlyProperty (name type getter doc : String) : Edit Property := do
  check .property name
  let property : Property := { name := name, type := type, doc := doc, getter := some getter }
  modify fun c => { c with properties := c.properties ++ [property] }
  return property

/-- Adds a method. -/
def addMethod (method : Method) : Edit Method := do
  check .method method.name
  modify fun c => { c with methods := c.methods ++ [method] }
  return method

/-- Something that is added to a class. -/
inductive Operation where
  | field (name : String) (value : Json)
  | backingField (name initial : String)
  | autoProperty (name type doc initial : String)
  | readOnlyProperty (name type getter doc : String)
  | method (method : Method)

/-- The steps of an operation, which give what it adds. -/
def Operation.edit : Operation → Edit Member
  | .field name value => Member.field <$> addField name value
  | .backingField name initial => Member.backing <$> addBackingField name initial
  | .autoProperty name type doc initial => Member.property <$> addAutoProperty name type doc initial
  | .readOnlyProperty name type getter doc =>
    Member.property <$> addReadOnlyProperty name type getter doc
  | .method added => Member.method <$> addMethod added

/-- Carries out an operation: what it added and the class after it. -/
def apply (c : Class) (operation : Operation) : Except Fault (Member × Class) :=
  match operation.edit c with
  | .ok member changed => .ok (member, changed)
  | .error fault _ => .error fault

/-- The class after an operation, whatever came of it. -/
def after (c : Class) (operation : Operation) : Class :=
  match operation.edit c with
  | .ok _ changed => changed
  | .error _ changed => changed

/-- Carries out an operation on a class that may not be there: what it added, and the class then. -/
def applyTo (c : Option Class) (operation : Operation) : Except Fault Member × Option Class :=
  match c with
  | some c => ((c.apply operation).map Prod.fst, some (c.after operation))
  | none => (.error .noClass, none)

end Class

/-! ## Plans -/

/-- Operations to carry out in turn, and what goes wrong after them. -/
structure Plan where
  operations : List Class.Operation
  fault : Option Fault := none

namespace Class

/-- Carries out operations until one fails: the class then and the fault. -/
def applyAll (c : Class) : List Operation → Class × Option Fault
  | [] => (c, none)
  | operation :: rest =>
    match c.apply operation with
    | .ok (_, changed) => changed.applyAll rest
    | .error fault => (c.after operation, some fault)

/-- Carries out a plan: the class then and the first fault. -/
def carryOut (c : Class) (plan : Plan) : Class × Option Fault :=
  match c.applyAll plan.operations with
  | (changed, some fault) => (changed, some fault)
  | (changed, none) => (changed, plan.fault)

end Class
end ApiDiscovery.Source
