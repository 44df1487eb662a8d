import ApiDiscovery.Proofs.Schema.Shape
import ApiDiscovery.Proofs.Source.Module
import ApiDiscovery.Source.Writer

/-!
# Documents that a module can be made for

What the classes of a module ask of a document, beyond what reading the service does: descriptions
are texts, and what is declared for methods has the shapes that their arguments and documentation
need (`Module.HasForm`). A fault of adding to a class is no matter of shape. Making the module tells
whether the document has that form (`Module.tells_ofDocument`), and writing it whether the title can
be written (`Module.tells_text_of_ofDocument`).
-/

namespace ApiDiscovery.Source

open Outcome

/-! ## Faults -/

/-- A fault of adding to a class is always expected, and one of the document if it is among the
expected ones. -/
def Fault.IsExpected (E : Discovery.Fault → Prop) : Fault → Prop
  | .document fault => E fault
  | _ => True

/-- A fault, if there is one, as an outcome. -/
def outcomeOf : Option Fault → Except Fault Unit
  | none => .ok ()
  | some fault => .error fault

variable {escapes : Pattern.Fault → Bool} {E : Discovery.Fault → Prop} {body : Json}

theorem tells_ofDiscovery {α : Type} {p : Prop} {x : Except Discovery.Fault α} (hx : Tells E p x) :
    Tells (Fault.IsExpected E) p (ofDiscovery x) :=
  hx.mapError fun _ hfault => hfault

/-! ## Methods -/

namespace Method

/-- What a method declares has the shapes that are needed to make a method of a class. -/
structure HasForm (body : Json) (members : Json.Members) : Prop where
  order : Schema.Argument.HasOrder members
  arguments : ∀ declared, Json.objectAt members "parameters" = .ok declared →
    ∀ name ∈ Json.keys declared, Schema.Argument.IsShaped body (Json.getOr declared name .null)
  request : Schema.HasRequest members
  response : Schema.HasResponse body members
  description : (Json.getOr members "description" (.str "")).IsString

/-- The value is an object that a method of a class can be made of. -/
def IsShaped (body declared : Json) : Prop :=
  ∃ members, declared.asObject = .ok members ∧ HasForm body members

theorem tells_methodDoc (members : Json.Members) (arguments : List Schema.Argument)
    (requestType responseType : Json) :
    Tells (Fault.IsExpected E) (Json.getOr members "description" (.str "")).IsString
      (methodDoc members arguments requestType responseType) := by
  have hsummary : Tells (Fault.IsExpected E) (Json.getOr members "description" (.str "")).IsString
      (summary members) := by
    refine (tells_ofDiscovery (Tells.self _)).bind_total fun declared _ => ?_
    dsimp only
    split
    · exact ⟨_, rfl⟩
    · exact ⟨_, rfl⟩
  exact hsummary.map _

/-- Making a method tells whether what is declared for it has the shapes that are needed. -/
theorem tells_ofDeclared (hE : Discovery.Fault.AreExpected escapes E) (body : Json)
    (path discoveryName : String) {declared : Json}
    (hread : Discovery.Method.IsReadable escapes declared) (name : String) :
    Tells (Fault.IsExpected E) (IsShaped body declared)
      (ofDeclared body path discoveryName declared name) := by
  obtain ⟨members, hmembers, ⟨own, hown, hparameters⟩, -⟩ := hread
  have hobjects : ∀ p ∈ own, ∃ inner, p.2 = .obj inner := by
    intro p hp
    obtain ⟨inner, hinner, -⟩ := hparameters p hp
    exact ⟨inner, Json.eq_obj_of_asObject hinner⟩
  refine Tells.congr (p := (Schema.Argument.HasOrder members ∧
    ∀ name ∈ Json.keys own, Schema.Argument.IsShaped body (Json.getOr own name .null)) ∧
      Schema.HasRequest members ∧ Schema.HasResponse body members ∧
        (Json.getOr members "description" (.str "")).IsString) ?_ ?_
  · rw [ofDeclared, hmembers]
    have harguments := Schema.Argument.tells_ofMethod hE body hown hobjects
    refine ((tells_ofDiscovery harguments).map _).bind fun arguments _ => ?_
    refine (tells_ofDiscovery (Schema.tells_requestType members)).bind fun requestType _ => ?_
    refine (tells_ofDiscovery (Schema.tells_responseType hE body members)).bind
      fun responseType _ => ?_
    exact (tells_methodDoc members arguments requestType responseType).map _
  · constructor
    · rintro ⟨⟨horder, harguments⟩, hrequest, hresponse, hdescription⟩
      refine ⟨members, hmembers, horder, fun declared h => ?_, hrequest, hresponse, hdescription⟩
      rw [hown] at h
      cases h
      exact harguments
    · rintro ⟨found, hfound, h⟩
      rw [hmembers] at hfound
      cases hfound
      exact ⟨⟨h.order, h.arguments own hown⟩, h.request, h.response, h.description⟩

end Method

/-! ## Decorations -/

theorem isExpected_of_refuses {c : Class} {name : String} {fault : Fault}
    (h : Class.Refuses c name fault) : fault.IsExpected E := by
  cases h with
  | empty kind _ => exact trivial
  | used kind _ => exact trivial

theorem isExpected_applyAll {c : Class} {operations : List Class.Operation} {fault : Fault}
    (h : (c.applyAll operations).2 = some fault) : fault.IsExpected E := by
  induction operations generalizing c with
  | nil => cases h
  | cons operation operations ih =>
    rw [Class.applyAll] at h
    split at h
    · exact ih h
    · next found hfound =>
      cases h
      obtain ⟨⟨name, -, hrefuses⟩, -⟩ := Class.edit_of_apply_error c hfound
      exact isExpected_of_refuses hrefuses

/-- Carrying out a plan tells what its own fault tells. -/
theorem tells_carryOut {p : Prop} (c : Class) {plan : Plan}
    (hplan : Tells (Fault.IsExpected E) p (outcomeOf plan.fault)) :
    Tells (Fault.IsExpected E) p (outcomeOf (c.carryOut plan).2) := by
  rw [Class.carryOut]
  split
  · next changed fault h => exact .error (isExpected_applyAll (congrArg Prod.snd h))
  · exact hplan

/-- Decorating a class tells what the single decorations tell. -/
theorem tells_decorateAll {δ : Type} {decorate : Class → δ → Class × Option Fault} {asks : δ → Prop}
    {chain : List δ}
    (h : ∀ d ∈ chain, ∀ c, Tells (Fault.IsExpected E) (asks d) (outcomeOf (decorate c d).2))
    (c : Class) :
    Tells (Fault.IsExpected E) (∀ d ∈ chain, asks d) (decorateAll decorate c chain) := by
  induction chain generalizing c with
  | nil => exact .ok (fun d hd => absurd hd List.not_mem_nil) c
  | cons d chain ih =>
    have hfirst := h d List.mem_cons_self c
    have hrest := ih (fun other hother => h other (List.mem_cons_of_mem d hother)) (decorate c d).1
    have heq : decorateAll decorate c (d :: chain) =
        outcomeOf (decorate c d).2 >>= fun _ => decorateAll decorate (decorate c d).1 chain := by
      rw [decorateAll]
      rcases decorate c d with ⟨changed, _ | fault⟩
      · rfl
      · rfl
    rw [heq]
    refine (hfirst.bind fun _ _ => hrest).congr ?_
    rw [List.forall_mem_cons]

namespace ResourceDecoration

theorem tells_methodsPlan (hE : Discovery.Fault.AreExpected escapes E) (body : Json) (path : String)
    (names : Naming.Allocator) {declared : Json.Members}
    (hread : ∀ p ∈ declared, Discovery.Method.IsReadable escapes p.2) :
    Tells (Fault.IsExpected E) (∀ p ∈ declared, Method.IsShaped body p.2)
      (outcomeOf (methodsPlan body usual path names declared).fault) := by
  induction declared generalizing names with
  | nil => exact .ok (fun p hp => absurd hp List.not_mem_nil) _
  | cons p declared ih =>
    obtain ⟨discoveryName, value⟩ := p
    let allocated := names.allocate (Naming.identifier discoveryName)
    have hfirst := Method.tells_ofDeclared hE body path discoveryName
      (hread _ List.mem_cons_self) allocated.1
    have hrest := ih allocated.2 fun q hq => hread q (List.mem_cons_of_mem _ hq)
    rw [List.forall_mem_cons]
    cases hmade : Method.ofDeclared body path discoveryName value allocated.1 with
    | error fault =>
      rw [methodsPlan_of_error hmade]
      exact .failed fun h => hfirst.expected h.1 fault hmade
    | ok m =>
      rw [methodsPlan_of_ok hmade]
      exact hrest.congr (and_iff_right (hfirst.holds m hmade)).symm

end ResourceDecoration

namespace Module

open Discovery (Document Service Site)
open Discovery.Tree (sitesBelow visited)

/-! ## Classes -/

/-- What a resource declares has the shapes that are needed to make its class. -/
structure HasSiteForm (body : Json) (members : Json.Members) : Prop where
  description : (Json.getOr members "description" (.str "")).IsString
  methods : Json.EachAt members "methods" (Method.IsShaped body)

/-- What a decoration of a resource asks of it: only that of methods asks for anything. -/
def Asks (body : Json) (members : Json.Members) : ResourceDecoration → Prop
  | .methods _ => Json.EachAt members "methods" (Method.IsShaped body)
  | _ => True

/-- Making the class of a resource tells whether it declares what has the shapes that are needed. -/
theorem tells_resourceClass (hE : Discovery.Fault.AreExpected escapes E) (body : Json) {site : Site}
    (htree : Discovery.Tree.IsTree site.members)
    (hread : Discovery.Resource.HasMethods escapes site.members) :
    Tells (Fault.IsExpected E) (HasSiteForm body site.members)
      (resourceClass body ResourceDecoration.usual site.path site.members) := by
  obtain ⟨declared, hdeclared, hmethods⟩ := hread
  have hdecorations : ∀ d ∈ [ResourceDecoration.subresourceAccessors, .methods true], ∀ c,
      Tells (Fault.IsExpected E) (Asks body site.members d)
        (outcomeOf (ResourceDecoration.decorate body ResourceDecoration.usual site.path
          (.obj site.members) c d).2) := by
    intro d hd c
    rcases List.mem_cons.1 hd with rfl | hd
    · refine tells_carryOut c ?_
      rw [plan_subresourceAccessors body htree]
      exact .ok trivial ()
    · obtain rfl := List.mem_singleton.1 hd
      refine tells_carryOut c ?_
      have hplan : ResourceDecoration.plan body ResourceDecoration.usual site.path
          (.obj site.members) c (.methods true) =
            ResourceDecoration.orFault (Json.objectAt site.members "methods" >>= fun declared =>
              .ok (ResourceDecoration.methodsPlan body ResourceDecoration.usual site.path
                (Naming.Allocator.ofTaken c.names) declared)) := rfl
      rw [hplan, hdeclared]
      refine (ResourceDecoration.tells_methodsPlan hE body site.path _ hmethods).congr ?_
      constructor
      · exact fun h => ⟨declared, hdeclared, h⟩
      · rintro ⟨found, hfound, h⟩
        rw [hdeclared] at hfound
        cases hfound
        exact h
  rw [resourceClass_eq]
  refine Tells.congr (p := (Json.getOr site.members "description" (.str "")).IsString ∧
    ∀ d ∈ [ResourceDecoration.subresourceAccessors, .methods true], Asks body site.members d) ?_ ?_
  · refine (tells_ofDiscovery (Tells.self _)).bind fun description _ => ?_
    exact tells_decorateAll hdecorations _
  · constructor
    · rintro ⟨hdescription, hall⟩
      exact ⟨hdescription, hall (.methods true) (by simp)⟩
    · rintro ⟨hdescription, hall⟩
      refine ⟨hdescription, List.forall_mem_cons.2 ⟨trivial, List.forall_mem_singleton.2 hall⟩⟩

/-- Making the class of a service tells whether its description is a text. -/
theorem tells_serviceClass (service : Service) (document : Json) :
    Tells (Fault.IsExpected E) service.description.IsString
      (serviceClass service (ServiceDecoration.usual document)) := by
  have hdoc : Tells (Fault.IsExpected E) service.description.IsString (serviceDoc service) := by
    refine (tells_ofDiscovery (Tells.self _)).bind_total fun description _ => ?_
    dsimp only
    split
    · exact ⟨_, rfl⟩
    · exact ⟨_, rfl⟩
  have hdecorations : ∀ d ∈ ServiceDecoration.usual document, ∀ c,
      Tells (Fault.IsExpected E) True (outcomeOf (ServiceDecoration.decorate service c d).2) := by
    intro d _ c
    refine tells_carryOut c ?_
    cases d <;> exact .ok trivial ()
  refine (hdoc.bind fun doc _ => tells_decorateAll hdecorations _).congr ?_
  exact and_iff_left fun _ _ => trivial

theorem tells_resourceClasses {chain : List ResourceDecoration} {asks : String × Json.Members → Prop}
    {tree : List (String × Json.Members)}
    (h : ∀ r ∈ tree, Tells (Fault.IsExpected E) (asks r) (resourceClass body chain r.1 r.2))
    (seen : List String) :
    Tells (Fault.IsExpected E) (∀ r ∈ tree, asks r) (resourceClasses body chain seen tree).1 := by
  induction tree generalizing seen with
  | nil => exact .ok (fun r hr => absurd hr List.not_mem_nil) _
  | cons r tree ih =>
    have hfirst := h r List.mem_cons_self
    rw [List.forall_mem_cons]
    cases hmade : resourceClass body chain r.1 r.2 with
    | error fault =>
      have heq : (resourceClasses body chain seen (r :: tree)).1 = .error fault := by
        rw [resourceClasses, hmade]
      rw [heq]
      exact .failed fun h => hfirst.expected h.1 fault hmade
    | ok c =>
      have hrest := ih (fun q hq => h q (List.mem_cons_of_mem r hq)) (c.name :: seen)
      rw [resourceClasses, hmade]
      dsimp only
      split
      · exact .error trivial
      · exact (hrest.map _).congr (and_iff_right (hfirst.holds c hmade)).symm

/-! ## Modules -/

/-- The values of a description have the shapes that are needed to make the classes of a module. -/
structure HasForm (escapes : Pattern.Fault → Bool) (body : Json.Members) : Prop where
  read : Service.IsReadable escapes body
  description : (Json.getOr body "description" (.str "")).IsString
  sites : ∀ site ∈ sitesBelow body, HasSiteForm (.obj body) site.members

theorem texts_of_ofJson {document : Json} {service : Service} {described : Document}
    (hdescribed : Document.ofJson document = .ok described)
    (hservice : Service.ofJson document = .ok service) :
    service.description = Json.getOr described.body "description" (.str "") ∧
      service.title = Json.getOr described.body "title" (.str "") := by
  simp only [Service.ofJson, hdescribed, bind_eq_ok, pure_eq_ok] at hservice
  obtain ⟨found, hfound, -, -, -, -, -, -, -, -, rfl⟩ := hservice
  cases hfound
  exact ⟨rfl, rfl⟩

/-- Making a module tells whether the description that a value holds, if it is a document, has the
shapes that are needed for the classes. -/
theorem tells_ofDocument (hE : Discovery.Fault.AreExpected escapes E) (document : Json) :
    Tells (Fault.IsExpected E)
      (∀ described, Document.ofJson document = .ok described → HasForm escapes described.body)
      (ofDocument document).1 := by
  rw [ofDocument_fst]
  have hservice := tells_ofDiscovery (Service.tells_ofJson hE document)
  cases hdescribed : Document.ofJson document with
  | error fault =>
    have hrefused : Service.ofJson document = .error fault := by
      rw [Service.ofJson, hdescribed]
      rfl
    rw [hrefused]
    refine .error (hE.descriptive fault (Document.isDescriptive_ofJson hdescribed))
  | ok described =>
    refine Tells.congr (p := (∀ found, Document.ofJson document = .ok found →
        Service.IsReadable escapes found.body) ∧
      (Json.getOr described.body "description" (.str "")).IsString ∧
        ∀ site ∈ sitesBelow described.body, HasSiteForm (.obj described.body) site.members) ?_ ?_
    · refine hservice.bind fun service hread => ?_
      -- The service was read, so its resources are a tree with methods that can be read.
      have hshape := hservice.holds service hread described hdescribed
      have hclass := tells_serviceClass (E := E) service document
      rw [(texts_of_ofJson hdescribed (ofDiscovery_eq_ok.1 hread)).1] at hclass
      refine hclass.bind fun c _ => ?_
      rw [Discovery.Tree.visitNested_eq_ok hshape.methods.tree ""]
      have hclasses : ∀ r ∈ (sitesBelow described.body).map (visited ""),
          Tells (Fault.IsExpected E) (HasSiteForm (.obj described.body) r.2)
            (resourceClass (.obj described.body) ResourceDecoration.usual r.1 r.2) := by
        intro r hr
        obtain ⟨site, hsite, rfl⟩ := List.mem_map.1 hr
        have htree := Discovery.Tree.isTree_of_mem_sites hshape.methods.tree site
          (Discovery.Tree.mem_sites.2 (.inr hsite))
        exact tells_resourceClass hE _ htree (hshape.methods.sites site hsite)
      refine ((tells_resourceClasses hclasses [c.name]).map _).congr ?_
      simp only [List.forall_mem_map]
      rfl
    · constructor
      · rintro ⟨hread, hdescription, hsites⟩ found hfound
        cases hfound
        exact ⟨hread described hdescribed, hdescription, hsites⟩
      · intro h
        obtain ⟨hread, hdescription, hsites⟩ := h described rfl
        refine ⟨fun found hfound => ?_, hdescription, hsites⟩
        rw [hdescribed] at hfound
        cases hfound
        exact hread

/-! ## Source text -/

/-- The title of the service is a text, if one is given and there is no description to follow it. -/
def HasTitle (body : Json.Members) : Prop :=
  ∀ description, (Json.getOr body "description" (.str "")).asText = .ok description →
    Text.collapse description = "" → (Json.getOr body "title" (.str "")).isGiven = true →
      (Json.getOr body "title" (.str "")).IsString

theorem tells_classText (c : Class) : Tells (Fault.IsExpected E) c.doc.IsString (classText c) :=
  ((tells_ofDiscovery (Tells.self _)).map docstring).map _

theorem tells_text (m : Module) :
    Tells (Fault.IsExpected E) (∀ c ∈ m.service :: m.resources, c.doc.IsString) m.text := by
  have hdoc : Tells (Fault.IsExpected E) m.service.doc.IsString (classDoc m.service) :=
    (tells_ofDiscovery (Tells.self _)).map docstring
  have hresources : Tells (Fault.IsExpected E) (∀ c ∈ m.resources, c.doc.IsString)
      (resourceTexts m.resources) :=
    .all resourceTexts (fun _ text others => "\n" ++ text ++ "\n" ++ others) rfl (fun _ _ => rfl)
      m.resources fun c _ => tells_classText c
  -- The documentation of the service is written twice, for the module and for its class.
  refine (hdoc.bind fun doc _ => (tells_classText m.service).bind fun service _ =>
    hresources.map _).congr ?_
  rw [List.forall_mem_cons]
  exact and_iff_right_of_imp And.left

/-- The documentation of the class of a service that was made. -/
theorem serviceDoc_of_ofDocument {document : Json} {m : Module} {log : List Log.Record}
    (h : ofDocument document = (.ok m, log)) {service : Service}
    (hservice : Service.ofJson document = .ok service) :
    serviceDoc service = .ok m.service.doc := by
  obtain ⟨found, described, hmade⟩ := ofDocument_spec h
  obtain ⟨other, -, -, hother, -, -, hclass, -⟩ := ofDocument_eq_ok h
  have hfound := hmade.readService
  rw [hservice] at hfound hother
  cases hfound
  cases hother
  -- The accessors of the service have distinct names, or no module would have been made.
  have hwanted : ((childrenOfService service).map fun c => Naming.identifier c.name).Nodup := by
    rw [identifiers_childrenOfService]
    exact serviceIdentifiers_nodup hmade.readResources hmade.siteNames
  rw [(serviceClass_eq document hwanted).1] at hclass
  obtain ⟨doc, hdoc, hclass⟩ := map_eq_ok.1 hclass
  rw [hdoc, ← hclass]
  rfl

theorem isString_resources {document : Json} {m : Module} {log : List Log.Record}
    (h : ofDocument document = (.ok m, log)) : ∀ c ∈ m.resources, c.doc.IsString := by
  intro c hc
  obtain ⟨service, described, hmade⟩ := ofDocument_spec h
  obtain ⟨site, -, ⟨doc, methods, -, rfl⟩, -⟩ := exists_of_mem_right hmade.siteClasses hc
  exact ⟨doc, rfl⟩

theorem isString_service {service : Service} {doc : Json} (h : serviceDoc service = .ok doc) :
    doc.IsString ↔ ∀ description, service.description.asText = .ok description →
      Text.collapse description = "" → service.title.isGiven = true → service.title.IsString := by
  obtain ⟨description, hdescription, h⟩ := bind_eq_ok.1 h
  rw [ofDiscovery_eq_ok] at hdescription
  rw [hdescription]
  dsimp only at h
  by_cases hempty : Text.collapse description = ""
  · rw [if_pos hempty] at h
    cases h
    by_cases hgiven : service.title.isGiven = true
    · rw [if_pos hgiven]
      exact ⟨fun h _ _ _ _ => h, fun h => h description rfl hempty hgiven⟩
    · rw [if_neg hgiven]
      exact ⟨fun _ _ _ _ h => absurd h hgiven, fun _ => ⟨_, rfl⟩⟩
  · rw [if_neg hempty] at h
    cases h
    refine ⟨fun _ found hfound hcollapsed => ?_, fun _ => ⟨_, rfl⟩⟩
    cases hfound
    exact absurd hcollapsed hempty

/-- Writing a module that was made tells whether the title can be written. -/
theorem tells_text_of_ofDocument {document : Json} {m : Module} {log : List Log.Record}
    (h : ofDocument document = (.ok m, log)) {described : Document}
    (hdescribed : Document.ofJson document = .ok described) :
    Tells (Fault.IsExpected E) (HasTitle described.body) m.text := by
  obtain ⟨service, -, -, hservice, -⟩ := ofDocument_eq_ok h
  obtain ⟨hdescription, htitle⟩ := texts_of_ofJson hdescribed hservice
  refine (tells_text m).congr ?_
  rw [List.forall_mem_cons, isString_service (serviceDoc_of_ofDocument h hservice), hdescription,
    htitle]
  exact and_iff_left (isString_resources h)

end Module
end ApiDiscovery.Source
