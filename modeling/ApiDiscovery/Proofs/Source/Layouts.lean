import ApiDiscovery.Proofs.Discovery.Layouts
import ApiDiscovery.Proofs.Schema.Argument
import ApiDiscovery.Proofs.Schema.ValueType
import ApiDiscovery.Proofs.Source.Decoration

/-!
# Modules for documents in either layout

The module for a document and that for its newer form differ in the constant that holds the
document, and in nothing else (`Module.ofDocument_newerForm`). What a module has of a description
depends on its schemas, which the newer form has too, and on members of parameters, methods and
resources that it leaves as they are or that are read under both keys.
-/

namespace ApiDiscovery

open Outcome
open Json (Members lookup getOr objectAt isGivenAt mapMembers mapEach)
open Discovery (Parameter Resource Document)

namespace Schema

/-! ## Types -/

section Bodies

variable {a b : Json} (hschemas : schemasOf a = schemasOf b)

include hschemas

theorem ValueType.ofSchemaFrom_congr (fuel : Nat) (seen : List Json) (schema : Json) :
    ofSchemaFrom a fuel seen schema = ofSchemaFrom b fuel seen schema := by
  induction fuel generalizing seen schema with
  | zero => rfl
  | succ fuel ih => simp only [ofSchemaFrom, resolve, hschemas, ih]

/-- The type of a schema depends on the schemas of the description only. -/
theorem ValueType.ofSchema_congr (schema : Json) : ofSchema a schema = ofSchema b schema := by
  rw [ofSchema, ofSchema, referenceCount, referenceCount, hschemas]
  exact ofSchemaFrom_congr hschemas _ [] schema

end Bodies

namespace ValueType

/-- The newer form of a parameter has the same type, since no schema is about a location. -/
theorem ofSchema_newer (body : Json) (members : Members) :
    ofSchema body (.obj (Parameter.newerMembers members)) = ofSchema body (.obj members) := by
  have hempty : List.isEmpty (Parameter.newerMembers members) = List.isEmpty members :=
    Json.isEmpty_settle _ _ members
  have hsame {key : String} (h : key ≠ "location") :
      lookup key (Parameter.newerMembers members) = lookup key members :=
    Parameter.lookup_newerMembers h members
  rw [ofSchema, ofSchema, ofSchemaFrom, ofSchemaFrom, ofSchemaWith, ofSchemaWith, hempty,
    hsame (by decide), ofItems_eq, ofItems_eq, hsame (by decide),
    Parameter.getOr_newerMembers (by decide), hsame (by decide)]

end ValueType

/-! ## Arguments -/

namespace Argument

/-- What is declared under a name in the newer form is the newer form of what is declared. -/
theorem getOr_mapEach_newer (declared : Members) (name : String) :
    getOr (mapEach Parameter.newer declared) name .null =
      Parameter.newer (getOr declared name .null) := by
  rw [getOr, getOr, Json.lookup_mapEach]
  cases lookup name declared with
  | none => rfl
  | some value => rfl

theorem isRequired_newer (declared : Members) (name : String) :
    isRequired (mapEach Parameter.newer declared) name = isRequired declared name := by
  rw [isRequired, isRequired, getOr_mapEach_newer]
  cases getOr declared name .null with
  | obj members =>
    simp (disch := decide) only [Parameter.newer, mapMembers, Json.asObject, ok_bind, isGivenAt,
      Parameter.getOr_newerMembers]
  | _ => rfl

theorem listed_newer (declared : Members) (wanted : List Json) :
    listed (mapEach Parameter.newer declared) wanted = listed declared wanted := by
  fun_induction listed declared wanted with
  | case1 => rfl
  | case2 name rest ih => rw [listed, ih, Json.lookup_mapEach, Option.isSome_map]
  | case3 other rest htext hscalar ih =>
    rw [listed, if_pos hscalar, ih]
    exact htext
  | case4 other rest htext hscalar =>
    rw [listed, if_neg hscalar]
    exact htext

theorem marked_newer (declared : Members) (names : List String) :
    marked (mapEach Parameter.newer declared) names = marked declared names := by
  induction names with
  | nil => rfl
  | cons name names ih => rw [marked, marked, isRequired_newer, ih]

theorem order_newer (declared : Members) (wanted : List Json) :
    order (mapEach Parameter.newer declared) wanted = order declared wanted := by
  simp only [order, listed_newer, marked_newer, Json.keys_mapEach]

section Bodies

variable {a b : Json} (hschemas : schemasOf a = schemasOf b)

include hschemas

theorem ofParameter_newer (name : String) (declared : Json) :
    ofParameter a name (Parameter.newer declared) = ofParameter b name declared := by
  cases declared with
  | obj members =>
    have htype : typeOf a (Parameter.newerMembers members) = typeOf b members := by
      rw [typeOf, typeOf, ValueType.ofSchema_newer, ValueType.ofSchema_congr hschemas, isGivenAt,
        isGivenAt, Parameter.getOr_newerMembers (by decide)]
    have hdescribe : describe (Parameter.newerMembers members) = describe members := by
      simp (disch := decide) only [describe, Parameter.getOr_newerMembers]
    simp (disch := decide) only [ofParameter, Parameter.newer, mapMembers, Json.asObject, ok_bind,
      htype, hdescribe, Parameter.firstGiven_newerMembers, isGivenAt, Parameter.getOr_newerMembers]
  | _ => simp only [ofParameter, Parameter.newer, mapMembers, Json.asObject, error_bind]

theorem ofNames_newer (declared : Members) (names : List String) :
    ofNames a (mapEach Parameter.newer declared) names = ofNames b declared names := by
  induction names with
  | nil => rfl
  | cons name names ih =>
    rw [ofNames, ofNames, getOr_mapEach_newer, ofParameter_newer hschemas, ih]

/-- A method in the newer form has the same arguments. -/
theorem ofMethod_newer (method : Members) :
    ofMethod a (Discovery.Method.newerMembers method) = ofMethod b method := by
  have horder : getOr (Discovery.Method.newerMembers method) "parameterOrder" (.arr []) =
      getOr method "parameterOrder" (.arr []) :=
    Discovery.Method.getOr_newerMembers_of_ne method (by decide) _
  have hparameters : getOr (Discovery.Method.newerMembers method) "parameters" (.obj []) =
      mapMembers (mapEach Parameter.newer) (getOr method "parameters" (.obj [])) := by
    rw [getOr, getOr, Discovery.Method.lookup_parameters]
    cases lookup "parameters" method with
    | none => rfl
    | some value => rfl
  rw [ofMethod, ofMethod, horder, hparameters]
  cases getOr method "parameters" (.obj []) with
  | obj declared => simp only [mapMembers, order_newer, ofNames_newer hschemas]
  | _ => rfl

end Bodies
end Argument
end Schema

namespace Source

/-! ## Methods -/

section Bodies

variable {a b : Json} (hschemas : Schema.schemasOf a = Schema.schemasOf b)

theorem ofDiscovery_ok {α : Type} (x : α) : ofDiscovery (.ok x) = .ok x := rfl

theorem ofDiscovery_error {α : Type} (fault : Discovery.Fault) :
    ofDiscovery (.error fault : Except Discovery.Fault α) = .error (.document fault) := rfl

theorem methodDoc_newer (members : Members) (arguments : List Schema.Argument)
    (requestType responseType : Json) :
    methodDoc (Discovery.Method.newerMembers members) arguments requestType responseType =
      methodDoc members arguments requestType responseType := by
  simp (disch := decide) only [methodDoc, summary, Discovery.Method.getOr_newerMembers_of_ne,
    Discovery.Method.pathOf?_newerMembers, Discovery.Method.verbOf_newerMembers]

include hschemas

/-- A method in the newer form is made as the same method. -/
theorem Method.ofDeclared_newer (path discoveryName : String) (declared : Json) (name : String) :
    ofDeclared a path discoveryName (Discovery.Method.newer declared) name =
      ofDeclared b path discoveryName declared name := by
  cases declared with
  | obj members =>
    have harguments : argumentsOf a (Discovery.Method.newerMembers members) =
        argumentsOf b members := by
      rw [argumentsOf, argumentsOf, Schema.Argument.ofMethod_newer hschemas]
    have hrequest : Schema.requestType (Discovery.Method.newerMembers members) =
        Schema.requestType members := by
      rw [Schema.requestType, Schema.requestType,
        Discovery.Method.getOr_newerMembers_of_ne members (by decide)]
    have hresponse : Schema.responseType a (Discovery.Method.newerMembers members) =
        Schema.responseType b members := by
      rw [Schema.responseType, Schema.responseType,
        Discovery.Method.getOr_newerMembers_of_ne members (by decide)]
      simp only [Schema.ValueType.ofSchema_congr hschemas]
    simp only [ofDeclared, Discovery.Method.newer, mapMembers, Json.asObject, ofDiscovery_ok,
      ok_bind, harguments, hrequest, hresponse, methodDoc_newer,
      Discovery.Method.idOf?_newerMembers, Discovery.Method.verbOf_newerMembers]
  | _ =>
    simp only [ofDeclared, Discovery.Method.newer, mapMembers, Json.asObject, ofDiscovery_error,
      error_bind]

/-! ## Resources -/

namespace ResourceDecoration

theorem methodsPlan_newer (chain : List ResourceDecoration) (path : String)
    (names : Naming.Allocator) (declared : Members) :
    methodsPlan a chain path names (mapEach Discovery.Method.newer declared) =
      methodsPlan b chain path names declared := by
  induction declared generalizing names with
  | nil => rfl
  | cons p declared ih =>
    rw [mapEach] at ih
    simp only [mapEach, List.map_cons, methodsPlan, Method.ofDeclared_newer hschemas, ih]

omit hschemas in
theorem elements_newer (resource : Members) :
    (getOr (Resource.newerMembers resource) "resources" (.obj [])).elements =
      (getOr resource "resources" (.obj [])).elements := by
  rw [getOr, getOr, Resource.lookup_newerMembers]
  cases lookup "resources" resource with
  | none => rfl
  | some value =>
    cases value with
    | obj declared =>
      have hkeys := congrArg (List.map Json.str) (Resource.keys_newerAll declared)
      rw [Json.keys, Json.keys, List.map_map, List.map_map] at hkeys
      exact congrArg Except.ok hkeys
    | _ => rfl

/-- Every decoration has the same operations for a resource and for its newer form. -/
theorem plan_newer (chain : List ResourceDecoration) (path : String) (resource : Members)
    (c : Class) (d : ResourceDecoration) :
    plan a chain path (.obj (Resource.newerMembers resource)) c d =
      plan b chain path (.obj resource) c d := by
  cases d with
  | subresourceAccessors => simp only [plan, Json.asObject, ok_bind, elements_newer]
  | methods withHooks =>
    simp only [plan, Json.asObject, ok_bind, Resource.objectAt_methods]
    cases objectAt resource "methods" with
    | error fault => simp only [Except.map, error_bind]
    | ok declared => simp only [Except.map, ok_bind, methodsPlan_newer hschemas]
  | _ => simp only [plan]

end ResourceDecoration

namespace Module

theorem resourceClass_newer (chain : List ResourceDecoration) (path : String)
    (resource : Members) :
    resourceClass a chain path (Resource.newerMembers resource) =
      resourceClass b chain path resource := by
  have hdescription : getOr (Resource.newerMembers resource) "description" (.str "") =
      getOr resource "description" (.str "") :=
    Json.getOr_congr (Resource.lookup_newerMembers_of_ne (by decide) (by decide) resource) _
  have hdecorate : ResourceDecoration.decorate a chain path
        (.obj (Resource.newerMembers resource)) =
      ResourceDecoration.decorate b chain path (.obj resource) := by
    funext c d
    rw [ResourceDecoration.decorate, ResourceDecoration.decorate,
      ResourceDecoration.plan_newer hschemas]
  rw [resourceClass, resourceClass, hdescription, hdecorate]

theorem resourceClasses_newer (chain : List ResourceDecoration) (seen : List String)
    (tree : List (String × Members)) :
    resourceClasses a chain seen (tree.map fun r => (r.1, Resource.newerMembers r.2)) =
      resourceClasses b chain seen tree := by
  induction tree generalizing seen with
  | nil => rfl
  | cons r tree ih =>
    simp only [List.map_cons, resourceClasses, resourceClass_newer hschemas, ih]

end Module
end Bodies

/-! ## The constant for the document -/

/-- The constant with another value if it is the one that holds the document. -/
def Field.withDiscovery (document : Json) (f : Field) : Field :=
  if f.name = "DISCOVERY" then { f with value := document } else f

namespace Class

/-- The class with another document in the constant that holds the document. -/
def withDiscovery (document : Json) (c : Class) : Class :=
  { c with fields := c.fields.map (Field.withDiscovery document) }

theorem names_withDiscovery (document : Json) (c : Class) :
    (c.withDiscovery document).names = c.names := by
  have hname (f : Field) : (f.withDiscovery document).name = f.name := by
    rw [Field.withDiscovery]
    split
    · rfl
    · rfl
  have hfields : (c.fields.map (Field.withDiscovery document)).map Field.name =
      c.fields.map Field.name := by
    rw [List.map_map]
    exact List.map_congr_left fun f _ => hname f
  simp only [names, memberNames, withDiscovery, hfields]

theorem checkName_withDiscovery (document : Json) (c : Class) (kind : MemberKind) (name : String) :
    (c.withDiscovery document).checkName kind name = c.checkName kind name := by
  rw [checkName, checkName, uses, uses, names_withDiscovery]
  rfl

/-- The operation adds no constant. -/
def Operation.addsNoField : Operation → Bool
  | .field _ _ => false
  | _ => true

theorem apply_withDiscovery (document : Json) (c : Class) {operation : Operation}
    (h : operation.addsNoField = true) :
    (c.withDiscovery document).apply operation =
      (c.apply operation).map fun r => (r.1, r.2.withDiscovery document) := by
  cases operation with
  | field name value => cases h
  | backingField name initial =>
    simp only [apply, Operation.edit, addBackingField, Functor.map, EStateM.map, bind, EStateM.bind,
      check, checkName_withDiscovery]
    cases c.checkName .field (Naming.backingField name) with
    | error fault => rfl
    | ok _ => rfl
  | autoProperty name type doc initial =>
    simp only [apply, Operation.edit, addAutoProperty, addBackingField, Functor.map, EStateM.map,
      bind, EStateM.bind, check, checkName_withDiscovery]
    cases c.checkName .property name with
    | error fault => rfl
    | ok _ =>
      simp only [checkName_withDiscovery]
      cases c.checkName .field (Naming.backingField name) with
      | error fault => rfl
      | ok _ => rfl
  | readOnlyProperty name type getter doc =>
    simp only [apply, Operation.edit, addReadOnlyProperty, Functor.map, EStateM.map, bind,
      EStateM.bind, check, checkName_withDiscovery]
    cases c.checkName .property name with
    | error fault => rfl
    | ok _ => rfl
  | method method =>
    simp only [apply, Operation.edit, addMethod, Functor.map, EStateM.map, bind, EStateM.bind, check,
      checkName_withDiscovery]
    cases c.checkName .method method.name with
    | error fault => rfl
    | ok _ => rfl

theorem applyAll_withDiscovery (document : Json) {c : Class} {operations : List Operation}
    (h : ∀ operation ∈ operations, operation.addsNoField = true) :
    (c.withDiscovery document).applyAll operations =
      ((c.applyAll operations).1.withDiscovery document, (c.applyAll operations).2) := by
  induction operations generalizing c with
  | nil => rfl
  | cons operation operations ih =>
    rw [List.forall_mem_cons] at h
    have happly := apply_withDiscovery document c h.1
    rw [applyAll, applyAll, happly]
    cases hoperation : c.apply operation with
    | error fault =>
      rw [hoperation] at happly
      simp only [Except.map, after_of_error _ happly, after_of_error c hoperation]
    | ok r => exact ih h.2

theorem carryOut_withDiscovery (document : Json) (c : Class) {plan : Plan}
    (h : ∀ operation ∈ plan.operations, operation.addsNoField = true) :
    (c.withDiscovery document).carryOut plan =
      ((c.carryOut plan).1.withDiscovery document, (c.carryOut plan).2) := by
  rw [carryOut, carryOut, applyAll_withDiscovery document h]
  cases c.applyAll plan.operations with
  | mk changed fault =>
    cases fault with
    | none => rfl
    | some fault => rfl

end Class

theorem accessorsFrom_addsNoField (owner : String) (names : Naming.Allocator)
    (children : List Child) :
    ∀ operation ∈ accessorsFrom owner names children, operation.addsNoField = true := by
  induction children generalizing names with
  | nil =>
    intro operation h
    cases h
  | cons child children ih =>
    intro operation h
    rw [accessorsFrom] at h
    rcases List.mem_append.1 h with h | h
    · simp only [accessor, List.mem_cons, List.not_mem_nil, or_false] at h
      rcases h with rfl | rfl
      · rfl
      · rfl
    · exact ih _ operation h

/-! ## Modules -/

namespace Module

/-- The module with another document in the constant that holds the document. -/
def withDiscovery (document : Json) (m : Module) : Module :=
  { m with service := m.service.withDiscovery document }

theorem decorate_resourceAccessors (service : Discovery.Service) (document : Json) (c : Class) :
    ServiceDecoration.decorate service (c.withDiscovery document) .resourceAccessors =
      ((ServiceDecoration.decorate service c .resourceAccessors).1.withDiscovery document,
        (ServiceDecoration.decorate service c .resourceAccessors).2) := by
  have hplan : ServiceDecoration.plan service (c.withDiscovery document) .resourceAccessors =
      ServiceDecoration.plan service c .resourceAccessors := by
    simp only [ServiceDecoration.plan, accessors, Class.names_withDiscovery]
  rw [ServiceDecoration.decorate, ServiceDecoration.decorate, hplan]
  refine Class.carryOut_withDiscovery document c ?_
  exact accessorsFrom_addsNoField "self" _ _

theorem serviceClass_withDiscovery (service : Discovery.Service) (document other : Json) :
    serviceClass service (ServiceDecoration.usual other) =
      (serviceClass service (ServiceDecoration.usual document)).map
        (Class.withDiscovery other) := by
  rw [serviceClass, serviceClass]
  cases serviceDoc service with
  | error fault => rfl
  | ok doc =>
    -- What the last decoration adds depends on the names of the constants, not on their values.
    have hchain (document : Json) :
        decorateAll (ServiceDecoration.decorate service) (bareService service doc)
            (ServiceDecoration.usual document) =
          decorateAll (ServiceDecoration.decorate service) (constantsOf service document doc)
            [.resourceAccessors] := rfl
    have hother : constantsOf service other doc =
        (constantsOf service document doc).withDiscovery other := rfl
    have hlast := decorate_resourceAccessors service other (constantsOf service document doc)
    refine (hchain other).trans (Eq.trans ?_ (congrArg _ (hchain document)).symm)
    rw [hother, decorateAll, decorateAll, hlast]
    cases ServiceDecoration.decorate service (constantsOf service document doc)
      .resourceAccessors with
    | mk changed fault =>
      cases fault with
      | none => rfl
      | some fault => rfl

theorem schemasOf_newerForm (d : Document) :
    Schema.schemasOf d.newerForm = Schema.schemasOf (.obj d.body) := by
  simp (disch := decide) only [Schema.schemasOf, Document.newerForm, Json.asObject, ok_bind,
    Document.getOr_newerMembers_of_ne]

theorem visitNested_newerForm (d : Document) :
    Discovery.Tree.visitNested "" d.newerMembers =
      (Discovery.Tree.visitNested "" d.body).map
        (List.map fun r => (r.1, Resource.newerMembers r.2)) := by
  rw [Discovery.Tree.visitNested_eq, Document.objectAt_resources, ← Discovery.Tree.visitNested_eq]
  exact Discovery.Tree.visit_newer.2.1 "" d.body

/-- A document and its newer form describe the same service and lead to the same module, but for the
document in it, with the same log; or both lead to the same fault. -/
theorem ofDocument_newerForm {document : Json} {d : Document}
    (h : Document.ofJson document = .ok d) :
    Discovery.Service.ofJson d.newerForm = Discovery.Service.ofJson document ∧
      ofDocument d.newerForm =
        ((ofDocument document).1.map (withDiscovery d.newerForm), (ofDocument document).2) := by
  refine ⟨Discovery.Service.ofJson_newerForm h, ?_⟩
  simp only [ofDocument, build, Discovery.Service.ofJson_newerForm h, h,
    Document.ofJson_newerForm d]
  cases Discovery.Service.ofJson document with
  | error fault => rfl
  | ok service =>
    simp only [ofDiscovery_ok, ok_bind, serviceClass_withDiscovery service document d.newerForm,
      visitNested_newerForm]
    cases serviceClass service (ServiceDecoration.usual document) with
    | error fault => rfl
    | ok c =>
      cases Discovery.Tree.visitNested "" d.body with
      | error fault => rfl
      | ok tree =>
        have hname : (c.withDiscovery d.newerForm).name = c.name := rfl
        have hclasses : resourceClasses (.obj d.newerMembers) ResourceDecoration.usual [c.name]
              (tree.map fun r => (r.1, Resource.newerMembers r.2)) =
            resourceClasses (.obj d.body) ResourceDecoration.usual [c.name] tree :=
          resourceClasses_newer (schemasOf_newerForm d) _ _ tree
        simp only [Except.map, ofDiscovery_ok, ok_bind, pure, Except.pure, hname, hclasses]
        cases resourceClasses (.obj d.body) ResourceDecoration.usual [c.name] tree with
        | mk outcome log =>
          cases outcome with
          | error fault => rfl
          | ok resources => rfl

/-- A document in the older layout with older keys, some next to newer ones that count as not
given. -/
def sampleOlder : Json :=
  .obj [("data", .obj [("buzz", .obj [("v1", .obj
    [("baseUrl", .str "https://a/"),
     ("parameters", .obj [("alt", .obj [("parameterType", .str "query")])]),
     ("resources", .obj
      [("activities", .obj
        [("methods", .obj
          [("get", .obj
            [("rpcName", .str "buzz.get"), ("path", .str ""), ("restPath", .str "activities/{id}"),
             ("parameters", .obj
              [("id", .obj [("location", .null), ("parameterType", .str "path"),
                ("required", .bool true)])])])])])])])])])]

theorem ofDocument_newerForm_sampleOlder :
    ∃ d m, Document.ofJson sampleOlder = .ok d ∧ (ofDocument sampleOlder).1 = .ok m ∧
      (m.resources.map fun c => c.methods.map fun method => method.rpcName.display) =
        [["buzz.get"]] ∧
      Discovery.Service.ofJson d.newerForm = Discovery.Service.ofJson sampleOlder ∧
      ofDocument d.newerForm =
        (.ok (m.withDiscovery d.newerForm), (ofDocument sampleOlder).2) := by
  obtain ⟨d, hd⟩ := exists_ok_of_isSome
    (show (Document.ofJson sampleOlder).toOption.isSome = true by decide)
  obtain ⟨m, hm, hnames⟩ := exists_ok_of_map
    (show (ofDocument sampleOlder).1.toOption.map (fun m =>
        m.resources.map fun c => c.methods.map fun method => method.rpcName.display) =
      some [["buzz.get"]] by decide)
  obtain ⟨hservice, hmodule⟩ := ofDocument_newerForm hd
  rw [hm] at hmodule
  exact ⟨d, m, hd, hm, hnames, hservice, hmodule⟩

end Module
end Source
end ApiDiscovery
