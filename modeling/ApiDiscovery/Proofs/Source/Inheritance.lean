import ApiDiscovery.Proofs.Source.Module

/-!
# What the class of a service inherits

The class of a service is a subclass of one with attributes and methods of its own. The accessors of
its resources are called as the identifiers of the resources, because no constant of the class is an
identifier, and nobody asks for the inherited names. So the class has a member or an attribute with
an inherited name exactly if a resource at the top has one of a few identifiers
(`Module.ofDocument_inherited`), and there are documents for which it has
(`Module.exists_inherited_replaced`).
-/

namespace ApiDiscovery.Source

open Discovery (Document Service Site)

/-- The names that the class above the class of a service assigns or calls. -/
def inheritedNames : List String :=
  ["descriptor", "base_uri", "authenticator", "return_type", "_client", "_owns_client", "execute",
   "close"]

/-- The identifiers whose accessor has an inherited name or reads an attribute with one. -/
def replacingIdentifiers : List String :=
  ["descriptor", "base_uri", "authenticator", "return_type", "client", "owns_client", "execute",
   "close"]

/-- The names of properties, methods and attributes of a class. -/
def Class.instanceNames (c : Class) : List String :=
  c.properties.map Property.name ++ c.methods.map Method.name ++ Ordered.names c.attributes

/-! ## Inherited names -/

/-- An inherited name that is an identifier is that of an accessor. -/
theorem mem_replacing_of_inherited {name : String} (hopen : Naming.isOpen name.toList = true)
    (h : name ∈ inheritedNames) : name ∈ replacingIdentifiers := by
  have hnames : ∀ inherited ∈ inheritedNames, Naming.isOpen inherited.toList = true →
      inherited ∈ replacingIdentifiers := by decide
  exact hnames name h hopen

/-- An inherited name that starts as the attributes behind properties do is one of these. -/
theorem mem_replacing_of_backing {name : String} (h : Naming.backingField name ∈ inheritedNames) :
    name ∈ replacingIdentifiers := by
  have hnames : ∀ inherited ∈ inheritedNames, inherited.toList.head? = some '_' →
      inherited = Naming.backingField "client" ∨
        inherited = Naming.backingField "owns_client" := by decide
  rcases hnames _ h (head_backingField name) with heq | heq
  · rw [Class.backingField_injective heq]
    decide
  · rw [Class.backingField_injective heq]
    decide

theorem inherited_of_mem_replacing {name : String} (h : name ∈ replacingIdentifiers) :
    name ∈ inheritedNames ∨ Naming.backingField name ∈ inheritedNames := by
  have hnames : ∀ identifier ∈ replacingIdentifiers,
      identifier ∈ inheritedNames ∨ Naming.backingField identifier ∈ inheritedNames := by decide
  exact hnames name h

/-- Among identifiers and the attributes for them there is an inherited name exactly if one of the
identifiers is replacing. -/
theorem exists_inherited_iff (resources : List String) :
    (∃ name ∈ inheritedNames, name ∈ resources.map Naming.identifier ++
        resources.map fun resource => Naming.backingField (Naming.identifier resource)) ↔
      ∃ resource ∈ resources, Naming.identifier resource ∈ replacingIdentifiers := by
  constructor
  · rintro ⟨name, hinherited, hmem⟩
    rcases List.mem_append.1 hmem with hmem | hmem
    · obtain ⟨resource, hresource, rfl⟩ := List.mem_map.1 hmem
      exact ⟨resource, hresource,
        mem_replacing_of_inherited (Naming.isOpen_identifier resource) hinherited⟩
    · obtain ⟨resource, hresource, rfl⟩ := List.mem_map.1 hmem
      exact ⟨resource, hresource, mem_replacing_of_backing hinherited⟩
  · rintro ⟨resource, hresource, hreplacing⟩
    rcases inherited_of_mem_replacing hreplacing with hinherited | hinherited
    · exact ⟨_, hinherited, List.mem_append_left _ (List.mem_map_of_mem hresource)⟩
    · exact ⟨_, hinherited, List.mem_append_right _ (List.mem_map_of_mem hresource)⟩

namespace Module

/-! ## The names of a service class -/

theorem not_mem_constants (name : String) :
    Naming.identifier name ∉ ["NAME", "VERSION", "BASE_URI", "DISCOVERY"] := by
  have hcapitals : (["NAME", "VERSION", "BASE_URI", "DISCOVERY"].all fun constant =>
      constant.toList.any fun c => !Naming.isNameChar c) = true := by decide
  intro hmem
  obtain ⟨c, hc, hcapital⟩ := List.any_eq_true.1 (List.all_eq_true.1 hcapitals _ hmem)
  rw [Naming.isNameChar_identifier name c hc] at hcapital
  cases hcapital

/-- The accessors of a service are called as the identifiers of its resources. -/
theorem accesses_service {service : Service} (document doc : Json)
    (hwanted : ((Ordered.names service.resources).map Naming.identifier).Nodup) :
    (accesses (Naming.Allocator.ofTaken (constantsOf service document doc).names)
        (childrenOfService service)).map Prod.fst =
      (Ordered.names service.resources).map Naming.identifier := by
  rw [accesses_map_fst, identifiers_childrenOfService]
  refine Naming.Allocator.allocateAll_of_free _ hwanted ?_
  intro n hn
  obtain ⟨name, -, rfl⟩ := List.mem_map.1 hn
  rw [← Bool.not_eq_true, Naming.Allocator.uses_ofTaken, names_constantsOf]
  exact not_mem_constants name

/-- The class of a service has an inherited name exactly if a resource at the top has one of the
identifiers for it: its properties are called as the identifiers of these resources, its attributes
likewise with an underscore, and it has no methods. -/
theorem ofDocument_inherited {document : Json} {m : Module} {log : List Log.Record}
    (h : ofDocument document = (.ok m, log)) :
    ∃ service, Service.ofJson document = .ok service ∧
      m.service.properties.map Property.name =
        (Ordered.names service.resources).map Naming.identifier ∧
      Ordered.names m.service.attributes =
        (Ordered.names service.resources).map (fun name =>
          Naming.backingField (Naming.identifier name)) ∧
      m.service.methods = [] ∧
      ((∃ name ∈ inheritedNames, name ∈ m.service.instanceNames) ↔
        ∃ name ∈ Ordered.names service.resources,
          Naming.identifier name ∈ replacingIdentifiers) := by
  obtain ⟨service, described, hm⟩ := ofDocument_spec h
  obtain ⟨doc, hclass⟩ := hm.serviceClass
  have haccesses := accesses_service document doc
    (serviceIdentifiers_nodup hm.readResources hm.siteNames)
  have hproperties : m.service.properties.map Property.name =
      (Ordered.names service.resources).map Naming.identifier := by
    rw [← haccesses, hclass]
    exact List.map_map
  have hattributes : Ordered.names m.service.attributes =
      (Ordered.names service.resources).map (fun name =>
        Naming.backingField (Naming.identifier name)) := by
    have hbacking := congrArg (List.map Naming.backingField) haccesses
    rw [List.map_map, List.map_map] at hbacking
    rw [hclass]
    exact List.map_map.trans hbacking
  have hmethods : m.service.methods = [] := by
    rw [hclass]
    rfl
  have hnames : m.service.instanceNames =
      (Ordered.names service.resources).map Naming.identifier ++
        (Ordered.names service.resources).map (fun name =>
          Naming.backingField (Naming.identifier name)) := by
    rw [Class.instanceNames, hproperties, hattributes, hmethods, List.map_nil, List.append_nil]
  refine ⟨service, hm.readService, hproperties, hattributes, hmethods, ?_⟩
  rw [hnames]
  exact exists_inherited_iff (Ordered.names service.resources)

/-- A document with resources whose accessors replace what the class of the service inherits. -/
def sampleReplacing : Json :=
  .obj [("name", .str "b"), ("version", .str "v1"), ("baseUrl", .str "https://a/"),
    ("resources", .obj [("execute", .obj []), ("Client", .obj [])])]

theorem ofDocument_inherited_sampleReplacing :
    ∃ m log service, ofDocument sampleReplacing = (.ok m, log) ∧
      Service.ofJson sampleReplacing = .ok service ∧
      m.service.properties.map Property.name = ["execute", "client"] ∧
      ∃ name ∈ inheritedNames, name ∈ m.service.instanceNames := by
  obtain ⟨m, hm⟩ := Outcome.exists_ok_of_isSome
    (show (ofDocument sampleReplacing).1.toOption.isSome = true by decide)
  have hmade := Outcome.eq_of_fst hm
  obtain ⟨service, hservice, hproperties, -, -, hinherited⟩ := ofDocument_inherited hmade
  obtain ⟨found, hfound, hnames⟩ := Outcome.exists_ok_of_map
    (show (Service.ofJson sampleReplacing).toOption.map (fun s => Ordered.names s.resources) =
      some ["execute", "Client"] by decide)
  obtain rfl : service = found := Except.ok.inj (hservice.symm.trans hfound)
  rw [hnames] at hproperties hinherited
  exact ⟨m, _, service, hmade, hservice, hproperties.trans (by decide),
    hinherited.2 ⟨"Client", by decide, by decide⟩⟩

/-- The accessors of a service may have the names of inherited members and attributes. -/
theorem exists_inherited_replaced :
    ∃ m log, ofDocument sampleReplacing = (.ok m, log) ∧
      ("execute" ∈ inheritedNames ∧ "execute" ∈ m.service.properties.map Property.name) ∧
      ("_client" ∈ inheritedNames ∧ "_client" ∈ Ordered.names m.service.attributes) := by
  obtain ⟨m, hm, hnames⟩ := Outcome.exists_ok_of_map
    (show (ofDocument sampleReplacing).1.toOption.map (fun m =>
        (m.service.properties.map Property.name, Ordered.names m.service.attributes)) =
      some (["execute", "client"], ["_execute", "_client"])
      by decide)
  have hmade := Outcome.eq_of_fst hm
  obtain ⟨hproperties, hattributes⟩ := Prod.mk.inj hnames
  exact ⟨m, _, hmade, ⟨by decide, by rw [hproperties]; decide⟩,
    ⟨by decide, by rw [hattributes]; decide⟩⟩

end Module
end ApiDiscovery.Source
