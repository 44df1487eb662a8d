import ApiDiscovery.Proofs.Discovery.Tree
import ApiDiscovery.Proofs.Source.Accessor
import ApiDiscovery.Proofs.Source.Method
import ApiDiscovery.Source.Module

/-!
# The usual chains

What the usual chains make of the class of a service (`Module.serviceClass_eq`) and of the class of
a resource (`Module.resourceClass_spec`): constants, accessors for the resources below in document
order and, for a resource, its methods in document order. Where the resources below have distinct
identifiers, no decoration ever adds a name that is in use.
-/

namespace ApiDiscovery.Source

open Naming (Allocator backingField isOpen)
open Outcome

/-! ## Carrying out plans -/

theorem carryOut_eq {c changed : Class} {operations : List Class.Operation}
    (h : c.applyAll operations = (changed, none)) (fault : Option Fault) :
    c.carryOut ⟨operations, fault⟩ = (changed, fault) := by
  rw [Class.carryOut, h]

theorem decorateAll_cons {δ : Type} {decorate : Class → δ → Class × Option Fault} {c changed : Class}
    {decoration : δ} (h : decorate c decoration = (changed, none)) (rest : List δ) :
    decorateAll decorate c (decoration :: rest) = decorateAll decorate changed rest := by
  rw [decorateAll, h]

theorem decorateAll_error {δ : Type} {decorate : Class → δ → Class × Option Fault}
    {c changed : Class} {decoration : δ} {fault : Fault}
    (h : decorate c decoration = (changed, some fault)) (rest : List δ) :
    decorateAll decorate c (decoration :: rest) = .error fault := by
  rw [decorateAll, h]

/-! ## Names that are never the attribute of a property -/

theorem head_backingField (name : String) : (backingField name).toList.head? = some '_' := by
  simp [backingField]

theorem ne_of_head {name other : String} (h : other.toList.head? ≠ some '_') :
    backingField name ≠ other := by
  intro heq
  rw [← heq, head_backingField] at h
  exact h rfl

/-! ## Names of methods -/

theorem allocate_ne_empty {a : Allocator} {name : String} (h : name ≠ "") :
    (a.allocate name).1 ≠ "" := by
  rcases Allocator.allocate_cases a name with ⟨-, hname⟩ | ⟨-, n, hname⟩
  · rwa [hname]
  · rw [hname]
    intro hempty
    have hchars := congrArg String.toList hempty
    rw [Allocator.toList_numbered] at hchars
    exact List.append_ne_nil_of_right_ne_nil _ (List.cons_ne_nil _ _) hchars

theorem identifier_ne_empty (name : String) : Naming.identifier name ≠ "" := by
  intro h
  have hopen := Naming.isOpen_identifier name
  rw [h] at hopen
  cases hopen

/-- No name is empty that is allocated for the identifier of another. -/
theorem allocateAll_ne_empty {a : Allocator} {wanted : List String} {name : String}
    (h : name ∈ a.allocateAll (wanted.map Naming.identifier)) : name ≠ "" := by
  induction wanted generalizing a with
  | nil => exact absurd h List.not_mem_nil
  | cons first wanted ih =>
    rw [List.map_cons, Allocator.allocateAll_cons, List.mem_cons] at h
    rcases h with rfl | h
    · exact allocate_ne_empty (identifier_ne_empty first)
    · exact ih h

/-! ## Plans of methods -/

/-- The method was made from the member of an object of methods. -/
def Method.IsMadeFrom (body : Json) (path : String) (member : String × Json) (m : Method) : Prop :=
  ofDeclared body path member.1 member.2 m.name = .ok m

namespace ResourceDecoration

/-- No decoration of the usual chain adds lines to a method. -/
theorem withLines_usual (m : Method) : withLines usual m = m := by
  have hbefore : usual.flatMap (linesBefore m.resource m.name) = [] := rfl
  have hafter : usual.flatMap (linesAfter m.resource m.name) = [] := rfl
  rw [withLines, hbefore, hafter, List.append_nil, List.append_nil]

section MethodsPlan

variable {body value : Json} {path discoveryName : String} {names : Allocator}

theorem methodsPlan_of_error {fault : Fault}
    (h : Method.ofDeclared body path discoveryName value
      (names.allocate (Naming.identifier discoveryName)).1 = .error fault)
    (rest : Json.Members) :
    methodsPlan body usual path names ((discoveryName, value) :: rest) = ⟨[], some fault⟩ := by
  simp only [methodsPlan, h]

theorem methodsPlan_of_ok {m : Method}
    (h : Method.ofDeclared body path discoveryName value
      (names.allocate (Naming.identifier discoveryName)).1 = .ok m)
    (rest : Json.Members) :
    methodsPlan body usual path names ((discoveryName, value) :: rest) =
      let others := methodsPlan body usual path
        (names.allocate (Naming.identifier discoveryName)).2 rest
      ⟨.method m :: others.operations, others.fault⟩ := by
  simp only [methodsPlan, h, withLines_usual]

end MethodsPlan

/-- The methods of a resource come in document order with newly allocated names, up to one that the
document does not declare well. -/
theorem methodsPlan_spec (body : Json) (path : String) (names : Allocator)
    (declared : Json.Members) :
    ∃ methods : List Method,
      (methodsPlan body usual path names declared).operations =
          methods.map Class.Operation.method ∧
        methods.map Method.name <+:
          names.allocateAll ((Json.keys declared).map Naming.identifier) ∧
        ((methodsPlan body usual path names declared).fault = none →
          List.Forall₂ (Method.IsMadeFrom body path) declared methods) ∧
        ∀ fault, (methodsPlan body usual path names declared).fault = some fault →
          ∃ found, fault = .document found := by
  induction declared generalizing names with
  | nil =>
    refine ⟨[], rfl, List.nil_prefix, fun _ => List.Forall₂.nil, ?_⟩
    intro fault h
    cases h
  | cons p declared ih =>
    obtain ⟨discoveryName, value⟩ := p
    let name := (names.allocate (Naming.identifier discoveryName)).1
    cases hmade : Method.ofDeclared body path discoveryName value name with
    | error fault =>
      rw [methodsPlan_of_error hmade]
      refine ⟨[], rfl, List.nil_prefix, fun h => (by cases h), ?_⟩
      intro found h
      cases h
      exact Method.blamesDocument_ofDeclared body path discoveryName value name fault hmade
    | ok m =>
      obtain ⟨methods, hoperations, hnames, hall, hfault⟩ :=
        ih (names.allocate (Naming.identifier discoveryName)).2
      obtain ⟨-, -, -, -, -, hname, -⟩ := Method.ofDeclared_eq_ok hmade
      rw [methodsPlan_of_ok hmade]
      refine ⟨m :: methods, ?_, ?_, ?_, hfault⟩
      · exact congrArg (Class.Operation.method m :: ·) hoperations
      · rw [List.map_cons, Json.keys, List.map_cons, List.map_cons, Allocator.allocateAll_cons,
          hname]
        exact (List.prefix_cons_inj name).2 hnames
      · intro h
        refine List.Forall₂.cons ?_ (hall h)
        rw [Method.IsMadeFrom, hname]
        exact hmade

end ResourceDecoration

namespace Module

open Discovery (Site)

/-! ## Classes of services -/

/-- The class of a service before any decoration. -/
def bareService (service : Discovery.Service) (doc : Json) : Class where
  name := Naming.serviceClass service.name
  bases := ["Service"]
  doc := doc
  initArgs := serviceInitArgs
  initLines := [serviceInitLine]

/-- The class of a service before it gives access to resources. -/
def constantsOf (service : Discovery.Service) (document doc : Json) : Class :=
  { bareService service doc with
    fields := [⟨"NAME", .str service.name⟩, ⟨"VERSION", .str service.version⟩,
      ⟨"BASE_URI", service.baseUri⟩, ⟨"DISCOVERY", document⟩] }

/-- The resources of a service as children of its class. -/
def childrenOfService (service : Discovery.Service) : List Child :=
  (Ordered.names service.resources).map fun name => ⟨name, name⟩

variable {service : Discovery.Service}

theorem names_constantsOf (service : Discovery.Service) (document doc : Json) :
    (constantsOf service document doc).names = ["NAME", "VERSION", "BASE_URI", "DISCOVERY"] := rfl

theorem hasProperties_constantsOf (service : Discovery.Service) (document doc : Json) :
    (constantsOf service document doc).HasProperties := by
  intro name _ hmem
  have hheads : ∀ constant ∈ ["NAME", "VERSION", "BASE_URI", "DISCOVERY"],
      constant.toList.head? ≠ some '_' := by decide
  rw [names_constantsOf] at hmem
  exact absurd (head_backingField name) (hheads _ hmem)

/-- The class that the usual chain makes for a service: its constants, and accessors for its
resources in order. -/
theorem serviceClass_eq (document : Json)
    (hwanted : ((childrenOfService service).map fun c => Naming.identifier c.name).Nodup) :
    serviceClass service (ServiceDecoration.usual document) =
        (serviceDoc service).map (fun doc =>
          (constantsOf service document doc).withChildren "self" (childrenOfService service)) ∧
      ∀ doc, ((constantsOf service document doc).withChildren "self"
        (childrenOfService service)).names.Nodup := by
  have haccessors := fun doc => applyAll_accessors (hasProperties_constantsOf service document doc)
    (by rw [names_constantsOf]; decide) (by rw [names_constantsOf]; decide) hwanted "self"
  refine ⟨?_, fun doc => (haccessors doc).2⟩
  rw [serviceClass]
  cases serviceDoc service with
  | error fault => rfl
  | ok doc =>
    have hconstants (rest : List ServiceDecoration) :
        decorateAll (ServiceDecoration.decorate service) (bareService service doc)
            (.versionInformation :: .discoveryDocument document :: rest) =
          decorateAll (ServiceDecoration.decorate service) (constantsOf service document doc) rest :=
      rfl
    have hlast := carryOut_eq (haccessors doc).1 none
    exact (hconstants _).trans (decorateAll_cons hlast [])

/-! ## Classes of resources -/

/-- The class of a resource before any decoration. -/
def bareResource (path doc : String) : Class where
  name := Naming.resourceClass path
  doc := .str doc
  initArgs := "service: Service"

/-- The property of a resource class that holds the service. -/
def serviceProperty : Property where
  name := "service"
  type := "Service"
  doc := "The owning service client."
  field := some (backingField "service")
  settable := true

/-- The class of a resource before it gives access to resources and has methods. -/
def framedResource (path doc : String) : Class :=
  { bareResource path doc with
    fields := [⟨"RESOURCE", .str path⟩]
    properties := [serviceProperty]
    attributes := [(backingField "service", "service")] }

/-- The resources right below a site as children of its class. -/
def childrenOf (site : Site) : List Child :=
  site.children.map fun name => ⟨name, site.path ++ "." ++ name⟩

theorem names_framedResource (path doc : String) :
    (framedResource path doc).names = ["RESOURCE", "service", backingField "service"] := rfl

theorem hasProperties_framedResource (path doc : String) :
    (framedResource path doc).HasProperties := by
  intro name _ hmem
  rw [names_framedResource] at hmem ⊢
  simp only [List.mem_cons, List.not_mem_nil, or_false] at hmem
  rcases hmem with h | h | h
  · exact absurd h (ne_of_head (by decide))
  · exact absurd h (ne_of_head (by decide))
  · rw [Class.backingField_injective h]
    decide

section Site

variable (body : Json)

theorem childrenOf_keys (path : String) (names : List String) :
    ResourceDecoration.childrenOf path (names.map Json.str) =
      (names.map fun name => ⟨name, path ++ "." ++ name⟩, none) := by
  induction names with
  | nil => rfl
  | cons name names ih => rw [List.map_cons, ResourceDecoration.childrenOf, ih, List.map_cons]

theorem plan_subresourceAccessors {site : Site} (hsite : Discovery.Tree.IsTree site.members) (c : Class) :
    ResourceDecoration.plan body ResourceDecoration.usual site.path (.obj site.members) c
        .subresourceAccessors =
      ⟨accessors c "service" (childrenOf site), none⟩ := by
  cases hsite with
  | @node _ declared hdeclared _ _ =>
    have hvalue := Json.getOr_of_objectAt hdeclared
    have hkeys : (Json.obj declared).elements = .ok ((Json.keys declared).map Json.str) := by
      rw [Json.elements, Json.keys, List.map_map]
      rfl
    have hplan : ResourceDecoration.plan body ResourceDecoration.usual site.path
        (.obj site.members) c .subresourceAccessors =
          ResourceDecoration.orFault
            ((Json.getOr site.members "resources" (.obj [])).elements >>= fun names =>
              .ok ⟨accessors c "service" (ResourceDecoration.childrenOf site.path names).1,
                (ResourceDecoration.childrenOf site.path names).2⟩) := rfl
    rw [hplan, hvalue, hkeys, childrenOf, Discovery.Tree.children_eq hdeclared]
    have hchildren := childrenOf_keys site.path (Json.keys declared)
    show Plan.mk (accessors c "service"
      (ResourceDecoration.childrenOf site.path ((Json.keys declared).map Json.str)).1) _ = _
    rw [hchildren]

theorem decorate_methods (site : Site) {c : Class} (hnodup : c.names.Nodup) :
    ∃ methods fault,
      ResourceDecoration.decorate body ResourceDecoration.usual site.path (.obj site.members) c
          (.methods true) = (c.withMethods methods, fault) ∧
        (c.withMethods methods).names.Nodup ∧
        (fault = none → List.Forall₂ (Method.IsMadeFrom body site.path) site.methods methods) ∧
        ∀ f, fault = some f → ∃ found, f = .document found := by
  have hplan : ResourceDecoration.plan body ResourceDecoration.usual site.path
      (.obj site.members) c (.methods true) =
        ResourceDecoration.orFault (Json.objectAt site.members "methods" >>= fun declared =>
          .ok (ResourceDecoration.methodsPlan body ResourceDecoration.usual site.path
            (Allocator.ofTaken c.names) declared)) := rfl
  rw [ResourceDecoration.decorate, hplan]
  cases hmethods : Json.objectAt site.members "methods" with
  | error fault =>
    refine ⟨[], some (.document fault), ?_, ?_, ?_, ?_⟩
    · rw [Class.withMethods, List.append_nil]
      rfl
    · rwa [Class.withMethods, List.append_nil]
    · intro h
      cases h
    · intro f h
      cases h
      exact ⟨fault, rfl⟩
  | ok declared =>
    obtain ⟨methods, hoperations, hnames, hall, hfault⟩ := ResourceDecoration.methodsPlan_spec body
      site.path (Allocator.ofTaken c.names) declared
    let wanted := (Json.keys declared).map Naming.identifier
    obtain ⟨hfresh, hunused⟩ := Allocator.allocateAll_fresh (Allocator.ofTaken c.names) wanted
    -- The names are allocated for this very class, so it has none of them.
    have hfree : ∀ m ∈ methods, m.name ≠ "" ∧ m.name ∉ c.names := by
      intro m hm
      have hmem : m.name ∈ (Allocator.ofTaken c.names).allocateAll wanted :=
        hnames.subset (List.mem_map_of_mem hm)
      refine ⟨allocateAll_ne_empty hmem, fun hused => ?_⟩
      rw [← Allocator.uses_ofTaken, hunused _ hmem] at hused
      cases hused
    obtain ⟨happly, hnodup'⟩ := Class.applyAll_methods hnodup (hfresh.sublist hnames.sublist) hfree
    refine ⟨methods, _, ?_, hnodup', ?_, hfault⟩
    · rw [← hoperations] at happly
      exact carryOut_eq happly _
    · intro h
      rw [Site.methods, Site.declared, hmethods]
      exact hall h

end Site

/-- The class gives access to the resources right below the site, and it has the methods that are
declared there, made one by one. -/
def IsClassOf (body : Json) (site : Site) (c : Class) : Prop :=
  ∃ doc methods, List.Forall₂ (Method.IsMadeFrom body site.path) site.methods methods ∧
    c = ((framedResource site.path doc).withChildren "service" (childrenOf site)).withMethods methods

/-- The last two decorations of the usual chain for a resource. -/
theorem decorateAll_framedResource (body : Json) {site : Site}
    (hsite : Discovery.Tree.IsTree site.members)
    (hwanted : ((childrenOf site).map fun c => Naming.identifier c.name).Nodup) (doc : String) :
    (∃ found, decorateAll
        (ResourceDecoration.decorate body ResourceDecoration.usual site.path (.obj site.members))
        (framedResource site.path doc) [.subresourceAccessors, .methods true] =
          .error (.document found)) ∨
      ∃ c, decorateAll
        (ResourceDecoration.decorate body ResourceDecoration.usual site.path (.obj site.members))
        (framedResource site.path doc) [.subresourceAccessors, .methods true] = .ok c ∧
          IsClassOf body site c ∧ c.names.Nodup := by
  obtain ⟨haccessors, hnodup⟩ := applyAll_accessors (hasProperties_framedResource site.path doc)
    (by rw [names_framedResource]; decide) (by rw [names_framedResource]; decide) hwanted "service"
  have hfirst : ResourceDecoration.decorate body ResourceDecoration.usual site.path
      (.obj site.members) (framedResource site.path doc) .subresourceAccessors =
        ((framedResource site.path doc).withChildren "service" (childrenOf site), none) := by
    rw [ResourceDecoration.decorate, plan_subresourceAccessors body hsite]
    exact carryOut_eq haccessors none
  obtain ⟨methods, fault, hsecond, hnodup', hall, hfault⟩ :=
    decorate_methods body site hnodup
  rw [decorateAll_cons hfirst]
  cases fault with
  | some fault =>
    obtain ⟨found, rfl⟩ := hfault fault rfl
    exact Or.inl ⟨found, decorateAll_error hsecond []⟩
  | none => exact Or.inr ⟨_, decorateAll_cons hsecond [], ⟨doc, methods, hall rfl, rfl⟩, hnodup'⟩

/-- The documentation of a resource class, given what the document says about the resource. -/
def resourceDoc (path declared : String) : String :=
  if Text.collapse declared = "" then "Methods of the " ++ Text.quoted path ++ " resource."
  else Text.collapse declared

theorem resourceClass_eq (body : Json) (path : String) (members : Json.Members) :
    resourceClass body ResourceDecoration.usual path members =
      ofDiscovery (Json.getOr members "description" (.str "")).asText >>= fun declared =>
        decorateAll (ResourceDecoration.decorate body ResourceDecoration.usual path (.obj members))
          (framedResource path (resourceDoc path declared)) [.subresourceAccessors, .methods true] :=
  rfl

/-- The class that the usual chain makes for a resource: its path, accessors for the resources right
below it in order, and its methods in order. Only the document can be the cause of a fault. -/
theorem resourceClass_spec (body : Json) {site : Site}
    (hsite : Discovery.Tree.IsTree site.members)
    (hwanted : ((childrenOf site).map fun c => Naming.identifier c.name).Nodup) :
    BlamesDocument (resourceClass body ResourceDecoration.usual site.path site.members) ∧
      ∀ c, resourceClass body ResourceDecoration.usual site.path site.members = .ok c →
        IsClassOf body site c ∧ c.names.Nodup := by
  have hframed (declared : String) :=
    decorateAll_framedResource body hsite hwanted (resourceDoc site.path declared)
  rw [resourceClass_eq]
  constructor
  · refine .bind (.ofDiscovery _) fun declared _ => ?_
    rcases hframed declared with ⟨found, hfault⟩ | ⟨c, hc, -⟩
    · rw [hfault]
      exact .ofDiscovery (.error found)
    · rw [hc]
      exact .ok c
  · intro c h
    obtain ⟨declared, -, h⟩ := bind_eq_ok.1 h
    rcases hframed declared with ⟨found, hfault⟩ | ⟨made, hmade, hspec⟩
    · rw [hfault] at h
      cases h
    · rw [hmade] at h
      exact Except.ok.inj h ▸ hspec

end Module
end ApiDiscovery.Source
