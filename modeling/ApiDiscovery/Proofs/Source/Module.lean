import ApiDiscovery.Proofs.Source.Decoration

/-!
# Modules for documents

A module that is made has a class for the service and one for every site, as the usual chains make
them (`Module.ofDocument_spec`). Where none is made the document describes no service, the class of
the service cannot be made, or the walk through the sites gets past some of them and stops at the
next one (`Module.ofDocument_eq_error`). For a document that describes a service and whose classes
have distinct names, adding to a class never fails, and no class uses a name twice
(`Module.ofDocument_names_distinct`): sites right below the same site have distinct identifiers,
because names with one identifier have one class name.
-/

namespace ApiDiscovery.Source.Module

open Outcome
open Discovery (Document Service Site)
open Discovery.Tree (sites sitesBelow visited)

/-! ## Names of classes -/

theorem name_decorateAll {δ : Type} {decorate : Class → δ → Class × Option Fault}
    (hname : ∀ c d, (decorate c d).1.name = c.name) {chain : List δ} {c made : Class}
    (h : decorateAll decorate c chain = .ok made) : made.name = c.name := by
  induction chain generalizing c with
  | nil =>
    cases h
    rfl
  | cons decoration chain ih =>
    have hfirst := hname c decoration
    rw [decorateAll] at h
    split at h
    · cases h
    · next changed hchanged =>
      rw [hchanged] at hfirst
      exact (ih h).trans hfirst

theorem name_serviceClass {service : Service} {chain : List ServiceDecoration} {c : Class}
    (h : serviceClass service chain = .ok c) : c.name = Naming.serviceClass service.name := by
  obtain ⟨doc, -, h⟩ := bind_eq_ok.1 h
  have hname := name_decorateAll (fun c d => Class.name_carryOut c _) h
  exact hname

theorem name_resourceClass {body : Json} {chain : List ResourceDecoration} {path : String}
    {members : Json.Members} {c : Class} (h : resourceClass body chain path members = .ok c) :
    c.name = Naming.resourceClass path := by
  obtain ⟨doc, -, h⟩ := bind_eq_ok.1 h
  have hname := name_decorateAll (fun c d => Class.name_carryOut c _) h
  exact hname

/-! ## Classes one after another -/

section ResourceClasses

variable {body : Json} {chain : List ResourceDecoration}

theorem resourceClasses_eq_ok {seen : List String} {tree : List (String × Json.Members)}
    {classes : List Class} {log : List Log.Record}
    (h : resourceClasses body chain seen tree = (.ok classes, log)) :
    List.Forall₂ (fun r c => resourceClass body chain r.1 r.2 = .ok c) tree classes ∧
      (classes.map Class.name).Nodup ∧ ∀ c ∈ classes, c.name ∉ seen := by
  induction tree generalizing seen classes log with
  | nil =>
    cases h
    exact ⟨List.Forall₂.nil, List.nodup_nil, fun c hc => absurd hc List.not_mem_nil⟩
  | cons r tree ih =>
    rw [resourceClasses] at h
    split at h
    · cases h
    · next c hc =>
      split at h
      · cases h
      · next hnew =>
        have hseen : c.name ∉ seen := fun hmem => hnew (List.contains_iff_mem.2 hmem)
        cases hrest : resourceClasses body chain (c.name :: seen) tree with
        | mk outcome records =>
          rw [hrest] at h
          obtain ⟨others, rfl, rfl⟩ := map_eq_ok.1 (Prod.mk.inj h).1
          obtain ⟨hmade, hnodup, hfresh⟩ := ih hrest
          refine ⟨List.Forall₂.cons hc hmade, ?_, ?_⟩
          · rw [List.map_cons, List.nodup_cons]
            refine ⟨fun hmem => ?_, hnodup⟩
            obtain ⟨other, hother, heq⟩ := List.mem_map.1 hmem
            exact hfresh other hother (heq ▸ List.mem_cons_self)
          · intro other hother hmem
            rcases List.mem_cons.1 hother with rfl | hother
            · exact hseen hmem
            · exact hfresh other hother (List.mem_cons_of_mem _ hmem)

/-- The walk gets past these resources: their classes can be made, with distinct names that are not
in `seen`. -/
structure Passes (body : Json) (chain : List ResourceDecoration) (seen : List String)
    (tree : List (String × Json.Members)) : Prop where
  made : ∀ r ∈ tree, ∃ c, resourceClass body chain r.1 r.2 = .ok c
  distinct : (tree.map fun r => Naming.resourceClass r.1).Nodup
  fresh : ∀ r ∈ tree, Naming.resourceClass r.1 ∉ seen

/-- The walk stops at this resource with the fault: its class cannot be made, or it is made and one
of the names in use is its name. -/
inductive StopsAt (body : Json) (chain : List ResourceDecoration) (used : List String)
    (r : String × Json.Members) : Fault → Prop
  | unmade {fault : Fault} (h : resourceClass body chain r.1 r.2 = .error fault) :
      StopsAt body chain used r fault
  | used {c : Class} (h : resourceClass body chain r.1 r.2 = .ok c)
      (hused : Naming.resourceClass r.1 ∈ used) :
      StopsAt body chain used r (.duplicateClass r.1 (Naming.resourceClass r.1))

theorem StopsAt.mono {used more : List String} {r : String × Json.Members} {fault : Fault}
    (h : StopsAt body chain used r fault) (hmore : used ⊆ more) :
    StopsAt body chain more r fault := by
  cases h with
  | unmade hunmade => exact .unmade hunmade
  | used hmade hused => exact .used hmade (hmore hused)

theorem Passes.nil (seen : List String) : Passes body chain seen [] :=
  ⟨fun _ h => absurd h List.not_mem_nil, List.nodup_nil, fun _ h => absurd h List.not_mem_nil⟩

theorem Passes.cons {seen : List String} {r : String × Json.Members}
    {tree : List (String × Json.Members)} {c : Class}
    (hc : resourceClass body chain r.1 r.2 = .ok c) (hnew : c.name ∉ seen)
    (h : Passes body chain (c.name :: seen) tree) : Passes body chain seen (r :: tree) := by
  have hname := name_resourceClass hc
  rw [hname] at hnew h
  refine ⟨List.forall_mem_cons.2 ⟨⟨c, hc⟩, h.made⟩, ?_, ?_⟩
  · rw [List.map_cons, List.nodup_cons]
    refine ⟨fun hmem => ?_, h.distinct⟩
    obtain ⟨q, hq, heq⟩ := List.mem_map.1 hmem
    exact h.fresh q hq (List.mem_cons.2 (.inl heq))
  · exact List.forall_mem_cons.2 ⟨hnew, fun q hq hmem =>
      h.fresh q hq (List.mem_cons_of_mem _ hmem)⟩

/-- A walk that fails gets past some resources and stops at the next one. -/
theorem resourceClasses_eq_error {seen : List String} {tree : List (String × Json.Members)}
    {fault : Fault} (h : (resourceClasses body chain seen tree).1 = .error fault) :
    ∃ before r rest, tree = before ++ r :: rest ∧ Passes body chain seen before ∧
      StopsAt body chain (seen ++ before.map fun q => Naming.resourceClass q.1) r fault := by
  induction tree generalizing seen with
  | nil => cases h
  | cons r tree ih =>
    rw [resourceClasses] at h
    split at h
    · next found hfound =>
      cases h
      exact ⟨[], r, tree, rfl, .nil seen, .unmade hfound⟩
    · next c hc =>
      have hname := name_resourceClass hc
      split at h
      · next hseen =>
        cases h
        refine ⟨[], r, tree, rfl, .nil seen, ?_⟩
        rw [hname] at hseen ⊢
        exact .used hc (List.mem_append_left _ (List.contains_iff_mem.1 hseen))
      · next hseen =>
        have hnew : c.name ∉ seen := fun hmem => hseen (List.contains_iff_mem.2 hmem)
        obtain ⟨before, q, rest, rfl, hpasses, hstops⟩ := ih (map_eq_error.1 h)
        refine ⟨r :: before, q, rest, rfl, hpasses.cons hc hnew, hstops.mono ?_⟩
        -- The name of this class counts among those before, and no longer among those seen.
        intro name hmem
        simp only [List.cons_append, List.mem_cons, List.mem_append, List.map_cons, hname] at hmem ⊢
        tauto

end ResourceClasses

/-! ## The names of sites -/

section Distinct

variable {members : Json.Members} (htree : Discovery.Tree.IsTree members)
  (hnodup : ((sitesBelow members).map fun site => Naming.resourceClass site.path).Nodup)
  {site : Site} (hsite : site ∈ sites (.obj members))

include htree hnodup hsite

theorem childClasses_nodup :
    (site.children.map fun name =>
      Naming.resourceClass (Discovery.Resource.pathIn site.path name)).Nodup := by
  have hsublist := (Discovery.Tree.children_sublist htree site hsite).map
    fun trail => Naming.resourceClass (trail.foldl Discovery.Resource.pathIn "")
  rw [List.map_map, List.map_map] at hsublist
  have hclasses := hnodup.sublist hsublist
  have hpath : (fun name => Naming.resourceClass (Discovery.Resource.pathIn site.path name)) =
      (fun trail => Naming.resourceClass (trail.foldl Discovery.Resource.pathIn "")) ∘
        fun name => site.trail ++ [name] := by
    funext name
    rw [Function.comp_apply, List.foldl_append]
    rfl
  rwa [hpath]

/-- Right below one site, names with one identifier would have one class. -/
theorem identifiers_nodup : (site.children.map Naming.identifier).Nodup := by
  have hclasses := childClasses_nodup htree hnodup hsite
  rw [List.Nodup, List.pairwise_map] at hclasses ⊢
  exact hclasses.imp fun hne heq => hne (Naming.resourceClass_eq_of_identifier heq site.path)

end Distinct

/-- The resources of a service are those right below the site of the description itself. -/
theorem names_of_service {service : Service} {shared : Ordered Discovery.Parameter}
    {members : Json.Members}
    (h : Discovery.Resource.nested shared members = .ok service.resources) :
    Ordered.names service.resources = Site.children ⟨[], members⟩ := by
  cases Discovery.Tree.isTree_of_nested h with
  | node hdeclared _ _ =>
    rw [Discovery.Tree.nested_eq, hdeclared] at h
    rw [Discovery.names_of_isReadAs (Discovery.Resource.allOfJson_isReadAs h)]
    exact (Discovery.Tree.children_eq hdeclared).symm

theorem identifiers_childrenOfService (service : Service) :
    ((childrenOfService service).map fun c => Naming.identifier c.name) =
      (Ordered.names service.resources).map Naming.identifier := by
  simp only [childrenOfService, List.map_map, Function.comp_def]

theorem identifiers_childrenOf (site : Site) :
    ((childrenOf site).map fun c => Naming.identifier c.name) =
      site.children.map Naming.identifier := by
  simp only [childrenOf, List.map_map, Function.comp_def]

/-! ## The module for a document -/

/-- Making a module step by step; the log has no influence on it. -/
theorem ofDocument_fst (document : Json) :
    (ofDocument document).1 = (do
      let service ← ofDiscovery (Service.ofJson document)
      let described ← ofDiscovery (Document.ofJson document)
      let c ← serviceClass service (ServiceDecoration.usual document)
      let tree ← ofDiscovery (Discovery.Tree.visitNested "" described.body)
      let resources ←
        (resourceClasses (.obj described.body) ResourceDecoration.usual [c.name] tree).1
      return ⟨described.name, described.version, c, resources⟩) := by
  rw [ofDocument, build]
  cases ofDiscovery (Service.ofJson document) with
  | error fault => rfl
  | ok service =>
    cases ofDiscovery (Document.ofJson document) with
    | error fault => rfl
    | ok described =>
      simp only [ok_bind]
      cases serviceClass service (ServiceDecoration.usual document) with
      | error fault => rfl
      | ok c =>
        cases ofDiscovery (Discovery.Tree.visitNested "" described.body) with
        | error fault => rfl
        | ok tree =>
          simp only [ok_bind, pure, Except.pure]
          rcases resourceClasses (.obj described.body) ResourceDecoration.usual [c.name] tree with
            ⟨_ | resources, log⟩
          · rfl
          · rfl

theorem ofDocument_eq_ok {document : Json} {m : Module} {log : List Log.Record}
    (h : ofDocument document = (.ok m, log)) :
    ∃ service described tree, Service.ofJson document = .ok service ∧
      Document.ofJson document = .ok described ∧
      Discovery.Tree.visitNested "" described.body = .ok tree ∧
      serviceClass service (ServiceDecoration.usual document) = .ok m.service ∧
      List.Forall₂ (fun r c =>
        resourceClass (.obj described.body) ResourceDecoration.usual r.1 r.2 = .ok c)
          tree m.resources ∧
      ((m.service :: m.resources).map Class.name).Nodup := by
  have hmade := congrArg Prod.fst h
  simp only [ofDocument_fst, bind_eq_ok, pure_eq_ok, ofDiscovery_eq_ok] at hmade
  obtain ⟨service, hservice, described, hdescribed, c, hclass, tree, hwalked, resources,
    hresources, rfl⟩ := hmade
  obtain ⟨hclasses, hnodup, hfresh⟩ := resourceClasses_eq_ok (eq_of_fst hresources)
  refine ⟨service, described, tree, hservice, hdescribed, hwalked, hclass, hclasses, ?_⟩
  rw [List.map_cons, List.nodup_cons]
  refine ⟨fun hmem => ?_, hnodup⟩
  obtain ⟨other, hother, heq⟩ := List.mem_map.1 hmem
  exact hfresh other hother (List.mem_singleton.2 heq)

theorem blamesDocument_serviceDoc (service : Service) : BlamesDocument (serviceDoc service) := by
  refine .bind (.ofDiscovery _) fun declared _ => ?_
  dsimp only
  split
  · exact .ok _
  · exact .ok _

section Distinct

variable {described : Document} {service : Service} {shared : Ordered Discovery.Parameter}
  (hnested : Discovery.Resource.nested shared described.body = .ok service.resources)
  (hdistinct : ((sitesBelow described.body).map fun site =>
    Naming.resourceClass site.path).Nodup)

include hnested hdistinct

theorem serviceIdentifiers_nodup :
    ((Ordered.names service.resources).map Naming.identifier).Nodup := by
  have hroot : (⟨[], described.body⟩ : Site) ∈ sites (.obj described.body) :=
    Discovery.Tree.mem_sites.2 (.inl rfl)
  have hidentifiers := identifiers_nodup (Discovery.Tree.isTree_of_nested hnested) hdistinct hroot
  rwa [← names_of_service hnested] at hidentifiers

/-- The class of a service whose resources have distinct class names. -/
theorem serviceClass_spec (document : Json) :
    BlamesDocument (serviceClass service (ServiceDecoration.usual document)) ∧
      ∀ c, serviceClass service (ServiceDecoration.usual document) = .ok c →
        (∃ doc, c = (constantsOf service document doc).withChildren "self"
          (childrenOfService service)) ∧ c.names.Nodup := by
  have hwanted : ((childrenOfService service).map fun c => Naming.identifier c.name).Nodup := by
    rw [identifiers_childrenOfService]
    exact serviceIdentifiers_nodup hnested hdistinct
  obtain ⟨hclass, hnames⟩ := serviceClass_eq document hwanted
  rw [hclass]
  refine ⟨(blamesDocument_serviceDoc service).map _, ?_⟩
  intro c h
  obtain ⟨doc, -, rfl⟩ := map_eq_ok.1 h
  exact ⟨⟨doc, rfl⟩, hnames doc⟩

/-- The class of a resource, where all resources have distinct class names. -/
theorem siteClass_spec (body : Json) {site : Site} (hsite : site ∈ sitesBelow described.body) :
    BlamesDocument (resourceClass body ResourceDecoration.usual site.path site.members) ∧
      ∀ c, resourceClass body ResourceDecoration.usual site.path site.members = .ok c →
        IsClassOf body site c ∧ c.names.Nodup := by
  have htree := Discovery.Tree.isTree_of_nested hnested
  have hmem : site ∈ sites (.obj described.body) := Discovery.Tree.mem_sites.2 (.inr hsite)
  refine resourceClass_spec body (Discovery.Tree.isTree_of_mem_sites htree site hmem) ?_
  rw [identifiers_childrenOf]
  exact identifiers_nodup htree hdistinct hmem

end Distinct

/-- The classes of a module are those that the usual chains make for the service that the document
describes and for each site, and they have distinct names. -/
structure IsMadeFor (m : Module) (document : Json) (service : Service) (described : Document) :
    Prop where
  readService : Service.ofJson document = .ok service
  readDocument : Document.ofJson document = .ok described
  readResources : Discovery.Resource.nested service.parameters described.body = .ok service.resources
  serviceClass : ∃ doc, m.service = (constantsOf service document doc).withChildren "self"
    (childrenOfService service)
  serviceNames : m.service.names.Nodup
  siteClasses : List.Forall₂
    (fun site c => IsClassOf (.obj described.body) site c ∧ c.names.Nodup)
    (sitesBelow described.body) m.resources
  distinct : ((m.service :: m.resources).map Class.name).Nodup
  siteNames : ((sitesBelow described.body).map fun site =>
    Naming.resourceClass site.path).Nodup

theorem ofDocument_spec {document : Json} {m : Module} {log : List Log.Record}
    (h : ofDocument document = (.ok m, log)) :
    ∃ service described, m.IsMadeFor document service described := by
  obtain ⟨service, described, tree, hservice, hdescribed, hwalked, hclass, hclasses, hdistinct⟩ :=
    ofDocument_eq_ok h
  obtain ⟨found, -, hfound, -, -, hnested, -, -⟩ := Discovery.Service.ofJson_eq_ok hservice
  rw [hdescribed] at hfound
  cases hfound
  have htree := Discovery.Tree.visitNested_eq_ok (Discovery.Tree.isTree_of_nested hnested) ""
  rw [hwalked] at htree
  cases htree
  rw [List.forall₂_map_left_iff] at hclasses
  have hsites : ((sitesBelow described.body).map fun site =>
      Naming.resourceClass site.path).Nodup := by
    rw [List.map_cons, List.nodup_cons] at hdistinct
    have hnames : (sitesBelow described.body).map (fun site => Naming.resourceClass site.path) =
        m.resources.map Class.name :=
      map_eq_map_of_forall₂ hclasses fun _ _ hc => (name_resourceClass hc).symm
    rw [hnames]
    exact hdistinct.2
  obtain ⟨hdoc, hserviceNames⟩ := (serviceClass_spec hnested hsites document).2 m.service hclass
  refine ⟨service, described, hservice, hdescribed, hnested, hdoc, hserviceNames, ?_, hdistinct,
    hsites⟩
  have hmade := List.forall₂_iff_get.1 hclasses
  refine List.forall₂_iff_get.2 ⟨hmade.1, fun i hsite hclass => ?_⟩
  exact (siteClass_spec hnested hsites _ (List.get_mem _ ⟨i, hsite⟩)).2 _ (hmade.2 i hsite hclass)

/-! ## Documents without a module -/

/-- Why no module is made for a document with this body, and the sites whose classes are made before
that shows. -/
inductive Refusal (document : Json) (body : Json.Members) : List Site → Fault → Prop
  /-- The document describes no service. -/
  | service {fault : Discovery.Fault} (h : Service.ofJson document = .error fault) :
      Refusal document body [] (.document fault)
  /-- The class of the service cannot be made. -/
  | serviceClass {service : Service} {fault : Fault}
      (hservice : Service.ofJson document = .ok service)
      (h : serviceClass service (ServiceDecoration.usual document) = .error fault) :
      Refusal document body [] fault
  /-- The walk gets past some sites and stops at the next one: its class cannot be made, or it is
  made and has the name of the class of the service or of one of these sites. -/
  | site {service : Service} {made rest : List Site} {site : Site} {fault : Fault}
      (hservice : Service.ofJson document = .ok service)
      (hwalk : sitesBelow body = made ++ site :: rest)
      (hpasses : Passes (.obj body) ResourceDecoration.usual [Naming.serviceClass service.name]
        (made.map (visited "")))
      (hstops : StopsAt (.obj body) ResourceDecoration.usual
        (Naming.serviceClass service.name :: made.map fun site => Naming.resourceClass site.path)
        (visited "" site) fault) :
      Refusal document body made fault

/-- Where no module is made there is a reason for it. -/
theorem ofDocument_eq_error {document : Json} {described : Document} {fault : Fault}
    (hdescribed : Document.ofJson document = .ok described)
    (h : (ofDocument document).1 = .error fault) :
    ∃ made, Refusal document described.body made fault := by
  simp only [ofDocument_fst, bind_eq_error, ofDiscovery_eq_error, ofDiscovery_eq_ok] at h
  rcases h with ⟨found, hfound, rfl⟩ | ⟨service, hservice, h⟩
  · exact ⟨[], .service hfound⟩
  -- Where the service is read, so are its description and the tree of its resources.
  obtain ⟨read, -, hread, -, -, hnested, -, -⟩ := Discovery.Service.ofJson_eq_ok hservice
  cases hdescribed.symm.trans hread
  have hwalked := Discovery.Tree.visitNested_eq_ok (Discovery.Tree.isTree_of_nested hnested) ""
  rcases h with ⟨found, hfound, -⟩ | ⟨found, hfound, h⟩
  · cases hdescribed.symm.trans hfound
  cases hdescribed.symm.trans hfound
  rcases h with hfault | ⟨c, hclass, ⟨found, hfound, -⟩ | ⟨tree, htree, h⟩⟩
  · exact ⟨[], .serviceClass hservice hfault⟩
  · cases hwalked.symm.trans hfound
  cases hwalked.symm.trans htree
  rcases h with hfault | ⟨resources, -, hdone⟩
  · obtain ⟨before, r, rest, hsplit, hpasses, hstops⟩ := resourceClasses_eq_error hfault
    obtain ⟨made, behind, hsites, rfl, hbehind⟩ := List.map_eq_append_iff.1 hsplit
    obtain ⟨site, others, rfl, rfl, rfl⟩ := List.map_eq_cons_iff.1 hbehind
    rw [name_serviceClass hclass] at hpasses hstops
    rw [List.map_map] at hstops
    exact ⟨made, .site hservice hsites hpasses hstops⟩
  · cases hdone

/-- The outcome for a document is no fault of adding to a class, if no class that is made on the way
is one and all classes have distinct names. -/
theorem blamesDocument_ofDocument {document : Json} {service : Service} {described : Document}
    {tree : List (String × Json.Members)} (hservice : Service.ofJson document = .ok service)
    (hdescribed : Document.ofJson document = .ok described)
    (hwalked : Discovery.Tree.visitNested "" described.body = .ok tree)
    (hclass : BlamesDocument (serviceClass service (ServiceDecoration.usual document)))
    (hclasses : ∀ r ∈ tree, BlamesDocument
      (resourceClass (.obj described.body) ResourceDecoration.usual r.1 r.2))
    (hdistinct : (Naming.serviceClass service.name ::
      tree.map fun r => Naming.resourceClass r.1).Nodup) :
    BlamesDocument (ofDocument document).1 := by
  obtain ⟨found, -, hfound, -, -, hnested, -, -⟩ := Discovery.Service.ofJson_eq_ok hservice
  cases hdescribed.symm.trans hfound
  have hsites := Discovery.Tree.visitNested_eq_ok (Discovery.Tree.isTree_of_nested hnested) ""
  cases hwalked.symm.trans hsites
  intro fault h
  obtain ⟨made, hrefusal⟩ := ofDocument_eq_error hdescribed h
  cases hrefusal with
  | service hfault =>
    rw [hservice] at hfault
    cases hfault
  | serviceClass hread hfault =>
    cases hservice.symm.trans hread
    exact hclass fault hfault
  | @site _ _ rest site _ hread hwalk hpasses hstops =>
    cases hservice.symm.trans hread
    rw [hwalk, List.map_append, List.map_cons] at hclasses hdistinct
    cases hstops with
    | unmade hunmade =>
      exact hclasses _ (List.mem_append_right _ List.mem_cons_self) fault hunmade
    | used hmade hused =>
      -- The name is also that of a class before, which the distinct names exclude.
      rw [List.map_append, List.map_cons, List.map_map, ← List.cons_append, List.nodup_append]
        at hdistinct
      exact absurd rfl (hdistinct.2.2 _ hused _ List.mem_cons_self)

/-- Adding to a class never fails and no class uses a name twice, for every document that describes
a service and whose classes have distinct names: only the document itself can be the cause of a
fault. -/
theorem ofDocument_names_distinct {document : Json} {service : Service}
    (hservice : Service.ofJson document = .ok service) :
    ∃ described tree, Document.ofJson document = .ok described ∧
      Discovery.Tree.visitNested "" described.body = .ok tree ∧
      ((Naming.serviceClass service.name :: tree.map fun r => Naming.resourceClass r.1).Nodup →
        BlamesDocument (ofDocument document).1 ∧
          (∀ c, serviceClass service (ServiceDecoration.usual document) = .ok c →
            c.names.Nodup) ∧
          ∀ r ∈ tree, ∀ c,
            resourceClass (.obj described.body) ResourceDecoration.usual r.1 r.2 = .ok c →
              c.names.Nodup) := by
  obtain ⟨described, -, hdescribed, -, -, hnested, -, -⟩ := Discovery.Service.ofJson_eq_ok hservice
  have hwalked := Discovery.Tree.visitNested_eq_ok (Discovery.Tree.isTree_of_nested hnested) ""
  refine ⟨described, _, hdescribed, hwalked, ?_⟩
  intro hdistinct
  rw [List.nodup_cons] at hdistinct
  have hsites : ((sitesBelow described.body).map fun site =>
      Naming.resourceClass site.path).Nodup := by
    have hmapped := hdistinct.2
    rwa [List.map_map] at hmapped
  obtain ⟨hblamed, hserviceClass⟩ := serviceClass_spec hnested hsites document
  refine ⟨?_, fun c hc => (hserviceClass c hc).2, ?_⟩
  · refine blamesDocument_ofDocument hservice hdescribed hwalked hblamed ?_
      (List.nodup_cons.2 hdistinct)
    intro r hr
    obtain ⟨site, hsite, rfl⟩ := List.mem_map.1 hr
    exact (siteClass_spec hnested hsites _ hsite).1
  · intro r hr c hc
    obtain ⟨site, hsite, rfl⟩ := List.mem_map.1 hr
    exact ((siteClass_spec hnested hsites _ hsite).2 c hc).2

/-- A document whose names are those of members of every class, or numbers, or no names at all. -/
def sampleNames : Json :=
  .obj [("name", .str "x"), ("version", .str "v1"), ("baseUrl", .str "https://a/"),
    ("resources", .obj
      [("service", .obj
        [("resources", .obj
          [("service", .obj []), ("service 2", .obj []), ("RESOURCE", .obj []), ("1", .obj [])]),
         ("methods", .obj
          [("service", .obj [("path", .str "a")]), ("!!", .obj [("path", .str "b")]),
           ("??", .obj [("path", .str "c")]), ("_2", .obj [("path", .str "d")])])]),
       ("NAME", .obj []), ("!!", .obj []), ("2", .obj [])])]

theorem ofDocument_names_distinct_sampleNames :
    ∃ service described tree, Service.ofJson sampleNames = .ok service ∧
      Document.ofJson sampleNames = .ok described ∧
      Discovery.Tree.visitNested "" described.body = .ok tree ∧
      (Naming.serviceClass service.name :: tree.map fun r => Naming.resourceClass r.1) =
        ["XService", "ServiceResource", "ServiceServiceResource", "ServiceService2Resource",
          "ServiceResourceResource", "Service1Resource", "NameResource", "_Resource",
          "_2Resource"] ∧
      BlamesDocument (ofDocument sampleNames).1 ∧
      ∀ r ∈ tree, ∀ c,
        resourceClass (.obj described.body) ResourceDecoration.usual r.1 r.2 = .ok c →
          c.names.Nodup := by
  obtain ⟨service, hservice, hname⟩ := exists_ok_of_map
    (show (Service.ofJson sampleNames).toOption.map (fun s => Naming.serviceClass s.name) =
      some "XService" by decide)
  obtain ⟨described, tree, hdescribed, htree, hdistinct⟩ := ofDocument_names_distinct hservice
  obtain ⟨found, hfound, hclasses⟩ := exists_ok_of_map
    (show (Document.ofJson sampleNames >>= fun d => Discovery.Tree.visitNested "" d.body).toOption.map
        (fun tree => tree.map fun r => Naming.resourceClass r.1) =
      some ["ServiceResource", "ServiceServiceResource", "ServiceService2Resource",
        "ServiceResourceResource", "Service1Resource", "NameResource", "_Resource",
        "_2Resource"] by decide)
  rw [hdescribed] at hfound
  obtain rfl : tree = found := Except.ok.inj (htree.symm.trans hfound)
  rw [hname, hclasses] at hdistinct
  obtain ⟨hblamed, -, hnames⟩ := hdistinct (by decide)
  exact ⟨service, described, tree, hservice, hdescribed, htree, by rw [hname, hclasses], hblamed,
    hnames⟩

end ApiDiscovery.Source.Module
