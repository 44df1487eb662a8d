import ApiDiscovery.Proofs.Source.Module

/-!
# Classes mirror resources

A module that is made for a document has one class for each resource, in the order of the walk, and
its properties lead from class to class as names lead from resource to resource
(`Module.ofDocument_mirrors`). A property makes an object of a class if the attribute that it reads
is assigned a call of this class. Every class of a resource is made by one property of the class
above it, so that one chain of properties leads to it from the class of the service.
-/

namespace ApiDiscovery.Source

open Discovery (Document Service Site)
open Discovery.Tree (sites sitesBelow)

/-! ## What properties make -/

/-- The class has the property, which reads an attribute that is assigned an object of the class
called `className`. -/
def Class.Makes (c : Class) (p : Property) (className : String) : Prop :=
  p ∈ c.properties ∧ ∃ backing owner, p.expression = "self." ++ backing ∧
    (backing, className ++ "(" ++ owner ++ ")") ∈ c.attributes

/-- The properties that make objects come last, one for each resource right below the site, in
order. -/
def Class.GivesAccess (c : Class) (site : Site) : Prop :=
  ∃ own accessors, c.properties = own ++ accessors ∧
    (∀ p ∈ own, ∀ className, ¬ c.Makes p className) ∧
    List.Forall₂ (fun name p =>
      c.Makes p (Naming.resourceClass (Discovery.Resource.pathIn site.path name)))
        site.children accessors

/-- What stands before the only occurrence of a character is determined. -/
theorem eq_of_append_cons {α : Type} {c : α} {a b x y : List α} (ha : c ∉ a) (hb : c ∉ b)
    (h : a ++ c :: b = x ++ c :: y) : a = x := by
  rcases List.append_eq_append_iff.1 h with ⟨d, rfl, hd⟩ | ⟨d, rfl, hd⟩
  · cases d with
    | nil => exact (List.append_nil a).symm
    | cons e d =>
      obtain ⟨rfl, rfl⟩ := List.cons.inj hd
      exact absurd (List.mem_append_right d List.mem_cons_self) hb
  · cases d with
    | nil => exact List.append_nil x
    | cons e d =>
      obtain ⟨rfl, -⟩ := List.cons.inj hd
      exact absurd (List.mem_append_right x List.mem_cons_self) ha

theorem toList_call (className owner : String) :
    (className ++ "(" ++ owner ++ ")").toList =
      className.toList ++ '(' :: (owner.toList ++ [')']) := by
  simp

/-- A call of the class of a resource is a call of no other class. -/
theorem eq_of_call {path owner className other : String} (howner : '(' ∉ owner.toList)
    (h : Naming.resourceClass path ++ "(" ++ owner ++ ")" = className ++ "(" ++ other ++ ")") :
    className = Naming.resourceClass path := by
  have hchars := congrArg String.toList h
  rw [toList_call, toList_call] at hchars
  have hbehind : '(' ∉ owner.toList ++ [')'] := by
    rw [List.mem_append, not_or]
    exact ⟨howner, by decide⟩
  exact (String.toList_inj.1 (eq_of_append_cons
    (Naming.parenthesis_not_mem_resourceClass path) hbehind hchars)).symm

theorem parenthesis_mem_call (className owner : String) :
    '(' ∈ (className ++ "(" ++ owner ++ ")").toList := by
  rw [toList_call]
  exact List.mem_append_right _ List.mem_cons_self

theorem expression_accessorProperty (access : String × Child) :
    (accessorProperty access).expression = "self." ++ Naming.backingField access.1 := by
  have hne : "self." ++ Naming.backingField access.1 ≠ "" := by
    intro h
    have hchars := congrArg String.toList h
    rw [String.toList_append] at hchars
    exact absurd (List.append_eq_nil_iff.1 hchars).1 (by decide)
  rw [Property.expression, accessorProperty]
  exact if_neg hne

theorem eq_of_expression {a b : String} (h : "self." ++ a = "self." ++ b) : a = b := by
  have hchars := congrArg String.toList h
  rw [String.toList_append, String.toList_append, List.append_cancel_left_eq] at hchars
  exact String.toList_inj.1 hchars

section Accesses

variable {c : Class} {own : List Property} {accesses : List (String × Child)} {owner : String}

/-- A class with accessors whose other properties read attributes that hold no call. -/
structure HasAccesses (c : Class) (own : List Property) (accesses : List (String × Child))
    (owner : String) : Prop where
  properties : c.properties = own ++ accesses.map accessorProperty
  attributes : ∀ access ∈ accesses, accessorAttribute owner access ∈ c.attributes
  distinct : (Ordered.names c.attributes).Nodup
  owner : '(' ∉ owner.toList
  own : ∀ p ∈ own, ∃ backing initial, p.expression = "self." ++ backing ∧
    (backing, initial) ∈ c.attributes ∧ '(' ∉ initial.toList

theorem HasAccesses.not_makes_own (h : HasAccesses c own accesses owner) {p : Property}
    (hp : p ∈ own) (className : String) : ¬ c.Makes p className := by
  rintro ⟨-, backing, other, hexpression, hmem⟩
  obtain ⟨found, initial, hfound, hinitial, hplain⟩ := h.own p hp
  obtain rfl := eq_of_expression (hexpression.symm.trans hfound)
  rw [Ordered.eq_of_mem h.distinct hinitial hmem] at hplain
  exact hplain (parenthesis_mem_call className other)

/-- The accessors make objects of the classes of their children, and no property makes another. -/
theorem HasAccesses.makes_iff (h : HasAccesses c own accesses owner) (p : Property)
    (className : String) :
    c.Makes p className ↔ ∃ access ∈ accesses, p = accessorProperty access ∧
      className = Naming.resourceClass access.2.path := by
  constructor
  · intro hmakes
    obtain ⟨hp, backing, other, hexpression, hmem⟩ := hmakes
    rw [h.properties, List.mem_append, List.mem_map] at hp
    rcases hp with hp | ⟨access, haccess, rfl⟩
    · exact absurd ⟨h.properties ▸ List.mem_append_left _ hp, backing, other, hexpression, hmem⟩
        (h.not_makes_own hp className)
    · refine ⟨access, haccess, rfl, ?_⟩
      rw [expression_accessorProperty] at hexpression
      obtain rfl := eq_of_expression hexpression
      exact eq_of_call h.owner
        (Ordered.eq_of_mem h.distinct (h.attributes access haccess) hmem)
  · rintro ⟨access, haccess, rfl, rfl⟩
    refine ⟨?_, Naming.backingField access.1, owner, expression_accessorProperty access,
      h.attributes access haccess⟩
    rw [h.properties]
    exact List.mem_append_right _ (List.mem_map_of_mem haccess)

end Accesses

namespace Module

/-! ## Classes and the sites they are made for -/

theorem classes_of_accesses {a : Naming.Allocator} {children : List Child} :
    (accesses a children).map (fun access => Naming.resourceClass access.2.path) =
      children.map fun child => Naming.resourceClass child.path := by
  have hsnd := congrArg (List.map fun child : Child => Naming.resourceClass child.path)
    (accesses_map_snd a children)
  rwa [List.map_map] at hsnd

/-- The class of a site gives access to the resources right below the site. -/
theorem IsClassOf.exists_accesses {body : Json} {site : Site} {c : Class}
    (h : IsClassOf body site c) (hnodup : c.names.Nodup) :
    ∃ own accesses owner, HasAccesses c own accesses owner ∧
      accesses.map (fun access => Naming.resourceClass access.2.path) =
        site.children.map fun name =>
          Naming.resourceClass (Discovery.Resource.pathIn site.path name) := by
  obtain ⟨doc, methods, -, rfl⟩ := h
  let accesses := accesses (Naming.Allocator.ofTaken (framedResource site.path doc).names)
    (childrenOf site)
  refine ⟨[serviceProperty], accesses, "service", ⟨rfl, ?_, ?_, by decide, ?_⟩, ?_⟩
  · intro access haccess
    exact List.mem_append_right _ (List.mem_map_of_mem haccess)
  · exact (List.nodup_append.1 hnodup).2.1
  · intro p hp
    obtain rfl := List.mem_singleton.1 hp
    refine ⟨Naming.backingField "service", "service", rfl, ?_, by decide⟩
    exact List.mem_append_left _ List.mem_cons_self
  · rw [classes_of_accesses, childrenOf, List.map_map]
    refine List.map_congr_left fun name _ => ?_
    exact Naming.resourceClass_below site.path name

/-- The class of a service gives access to the resources at the top. -/
theorem exists_accesses_service {document : Json} {service : Service}
    {shared : Ordered Discovery.Parameter} {members : Json.Members} {doc : Json}
    (hread : Discovery.Resource.nested shared members = .ok service.resources)
    (hnodup : ((constantsOf service document doc).withChildren "self"
      (childrenOfService service)).names.Nodup) :
    ∃ own accesses owner, HasAccesses ((constantsOf service document doc).withChildren "self"
        (childrenOfService service)) own accesses owner ∧
      accesses.map (fun access => Naming.resourceClass access.2.path) =
        (Site.children ⟨[], members⟩).map fun name =>
          Naming.resourceClass (Discovery.Resource.pathIn "" name) := by
  let accesses := accesses (Naming.Allocator.ofTaken (constantsOf service document doc).names)
    (childrenOfService service)
  refine ⟨[], accesses, "self", ⟨rfl, ?_, ?_, by decide, ?_⟩, ?_⟩
  · intro access haccess
    exact List.mem_append_right _ (List.mem_map_of_mem haccess)
  · exact (List.nodup_append.1 hnodup).2.1
  · intro p hp
    exact absurd hp List.not_mem_nil
  · rw [classes_of_accesses, ← names_of_service hread, childrenOfService, List.map_map]
    rfl

/-- The sites of a tree of resources, each with the class of the module in its place. -/
def below (m : Module) (body : Json.Members) : List (Site × Class) :=
  (sitesBelow body).zip m.resources

/-- The site of the tree itself with the class of the service, and the sites in it. -/
def placed (m : Module) (body : Json.Members) : List (Site × Class) :=
  (⟨[], body⟩, m.service) :: m.below body

/-- The chain of properties leads from the class of the service to the class. -/
inductive Leads (m : Module) : List Property → Class → Prop where
  | service : m.Leads [] m.service
  | accessor {chain : List Property} {c child : Class} {p : Property} (hleads : m.Leads chain c)
      (hchild : child ∈ m.resources) (hmakes : c.Makes p child.name) :
      m.Leads (chain ++ [p]) child

section Placed

variable {m : Module} {document : Json} {service : Service} {described : Document}
  (h : m.IsMadeFor document service described)

include h

theorem IsMadeFor.isTree : Discovery.Tree.IsTree described.body :=
  Discovery.Tree.isTree_of_nested h.readResources

theorem IsMadeFor.isClassOf {q : Site × Class} (hq : q ∈ m.below described.body) :
    IsClassOf (.obj described.body) q.1 q.2 ∧ q.2.names.Nodup :=
  (List.forall₂_iff_zip.1 h.siteClasses).2 hq

theorem IsMadeFor.name_below {q : Site × Class} (hq : q ∈ m.below described.body) :
    q.2.name = Naming.resourceClass q.1.path := by
  obtain ⟨⟨doc, methods, -, hc⟩, -⟩ := h.isClassOf hq
  rw [hc]
  rfl

theorem IsMadeFor.map_fst_below : (m.below described.body).map Prod.fst = sitesBelow described.body :=
  List.map_fst_zip (Nat.le_of_eq h.siteClasses.length_eq)

theorem IsMadeFor.map_snd_below : (m.below described.body).map Prod.snd = m.resources :=
  List.map_snd_zip (Nat.le_of_eq h.siteClasses.length_eq.symm)

/-- A class is in one place only. -/
theorem IsMadeFor.eq_of_name {q r : Site × Class} (hq : q ∈ m.placed described.body)
    (hr : r ∈ m.placed described.body) (heq : q.2.name = r.2.name) : q = r := by
  have hnames : (m.placed described.body).map (fun q => q.2.name) =
      (m.service :: m.resources).map Class.name := by
    rw [placed, List.map_cons, List.map_cons, ← h.map_snd_below, List.map_map]
    rfl
  have hnodup : ((m.placed described.body).map fun q => q.2.name).Nodup := hnames ▸ h.distinct
  exact List.inj_on_of_nodup_map hnodup hq hr heq

/-- A place has one trail only. -/
theorem IsMadeFor.eq_of_trail {q r : Site × Class} (hq : q ∈ m.placed described.body)
    (hr : r ∈ m.placed described.body) (heq : q.1.trail = r.1.trail) : q = r := by
  have hne : ∀ q ∈ m.below described.body, q.1.trail ≠ [] := fun q hq =>
    Discovery.Tree.trail_ne_nil h.isTree (h.map_fst_below ▸ List.mem_map_of_mem hq)
  rcases List.mem_cons.1 hq with rfl | hbelow
  · rcases List.mem_cons.1 hr with rfl | hbelow
    · rfl
    · exact absurd heq.symm (hne r hbelow)
  · rcases List.mem_cons.1 hr with rfl | hbelow'
    · exact absurd heq (hne q hbelow)
    · refine h.eq_of_name hq hr ?_
      rw [h.name_below hbelow, h.name_below hbelow', Site.path, Site.path, Site.pathFrom,
        Site.pathFrom, heq]

/-- Every place below the top is right below another one. -/
theorem IsMadeFor.exists_parent {q : Site × Class} (hq : q ∈ m.below described.body) :
    ∃ parent ∈ m.placed described.body, ∃ name ∈ parent.1.children,
      q.1.trail = parent.1.trail ++ [name] := by
  obtain ⟨site, hsite, name, hname, htrail⟩ := Discovery.Tree.exists_parent h.isTree q.1
    (h.map_fst_below ▸ List.mem_map_of_mem hq)
  rw [sites, List.mem_cons, ← h.map_fst_below, List.mem_map] at hsite
  rcases hsite with rfl | ⟨parent, hparent, rfl⟩
  · exact ⟨(⟨[], described.body⟩, m.service), List.mem_cons_self, name, hname, htrail⟩
  · exact ⟨parent, List.mem_cons_of_mem _ hparent, name, hname, htrail⟩

/-- For every resource right below a place there is a place. -/
theorem IsMadeFor.exists_child {parent : Site × Class}
    (hparent : parent ∈ m.placed described.body) {name : String}
    (hname : name ∈ parent.1.children) :
    ∃ q ∈ m.below described.body, q.1.trail = parent.1.trail ++ [name] := by
  have hsite : parent.1 ∈ sites (.obj described.body) := by
    rw [sites, ← h.map_fst_below]
    exact List.mem_map_of_mem hparent
  have htrail : parent.1.trail ++ [name] ∈ (sitesBelow described.body).map Site.trail :=
    (Discovery.Tree.children_sublist h.isTree parent.1 hsite).subset (List.mem_map_of_mem hname)
  rw [← h.map_fst_below, List.map_map] at htrail
  obtain ⟨q, hq, heq⟩ := List.mem_map.1 htrail
  exact ⟨q, hq, heq⟩

theorem IsMadeFor.exists_accesses {parent : Site × Class}
    (hparent : parent ∈ m.placed described.body) :
    ∃ own accesses owner, HasAccesses parent.2 own accesses owner ∧
      accesses.map (fun access => Naming.resourceClass access.2.path) =
        parent.1.children.map fun name =>
          Naming.resourceClass (Discovery.Resource.pathIn parent.1.path name) := by
  rcases List.mem_cons.1 hparent with rfl | hbelow
  · obtain ⟨doc, hservice⟩ := h.serviceClass
    have hnodup := h.serviceNames
    rw [hservice] at hnodup
    show ∃ own accesses owner, HasAccesses m.service own accesses owner ∧ _
    rw [hservice]
    exact exists_accesses_service h.readResources hnodup
  · obtain ⟨hclass, hnodup⟩ := h.isClassOf hbelow
    exact hclass.exists_accesses hnodup

/-! ## Properties between places -/

/-- What a property of a class makes is the class of a place right below. -/
theorem IsMadeFor.exists_child_of_makes {parent : Site × Class}
    (hparent : parent ∈ m.placed described.body) {p : Property} {className : String}
    (hmakes : parent.2.Makes p className) :
    ∃ q ∈ m.below described.body, ∃ name, q.1.trail = parent.1.trail ++ [name] ∧
      q.2.name = className := by
  obtain ⟨own, accesses, owner, haccesses, hclasses⟩ := h.exists_accesses hparent
  obtain ⟨access, haccess, -, rfl⟩ := (haccesses.makes_iff p className).1 hmakes
  have hmem : Naming.resourceClass access.2.path ∈
      accesses.map fun a => Naming.resourceClass a.2.path := List.mem_map_of_mem haccess
  rw [hclasses] at hmem
  obtain ⟨name, hname, heq⟩ := List.mem_map.1 hmem
  obtain ⟨q, hq, htrail⟩ := h.exists_child hparent hname
  refine ⟨q, hq, name, htrail, ?_⟩
  rw [h.name_below hq, Site.path_of_trail htrail]
  exact heq

/-- The class of a place is made by exactly one property of the class right above. -/
theorem IsMadeFor.existsUnique_makes {parent q : Site × Class}
    (hparent : parent ∈ m.placed described.body) (hq : q ∈ m.below described.body)
    {name : String} (htrail : q.1.trail = parent.1.trail ++ [name]) :
    ∃! p, parent.2.Makes p q.2.name := by
  -- The place right above is given by the trail, so the name is one of those declared there.
  have hname : name ∈ parent.1.children := by
    obtain ⟨other, hother, found, hfound, heq⟩ := h.exists_parent hq
    obtain ⟨htrails, hnames⟩ := List.append_inj' (htrail.symm.trans heq) rfl
    cases hnames
    rwa [h.eq_of_trail hparent hother htrails]
  have hclass : q.2.name =
      Naming.resourceClass (Discovery.Resource.pathIn parent.1.path name) := by
    rw [h.name_below hq, Site.path_of_trail htrail]
  obtain ⟨own, accesses, owner, haccesses, hclasses⟩ := h.exists_accesses hparent
  have hnodup : (accesses.map fun a => Naming.resourceClass a.2.path).Nodup := by
    rw [hclasses]
    refine childClasses_nodup h.isTree h.siteNames ?_
    rw [sites, ← h.map_fst_below]
    exact List.mem_map_of_mem hparent
  have hmem : q.2.name ∈ accesses.map fun a => Naming.resourceClass a.2.path := by
    rw [hclasses, hclass]
    exact List.mem_map_of_mem hname
  obtain ⟨access, haccess, heq⟩ := List.mem_map.1 hmem
  refine ⟨accessorProperty access,
    (haccesses.makes_iff _ _).2 ⟨access, haccess, rfl, heq.symm⟩, ?_⟩
  intro p hmakes
  obtain ⟨other, hother, rfl, hother'⟩ := (haccesses.makes_iff _ _).1 hmakes
  rw [List.inj_on_of_nodup_map hnodup hother haccess (hother'.symm.trans heq.symm)]

/-- The accessors come in the order of the resources right below. -/
theorem IsMadeFor.givesAccess {parent : Site × Class}
    (hparent : parent ∈ m.placed described.body) : parent.2.GivesAccess parent.1 := by
  obtain ⟨own, accesses, owner, haccesses, hclasses⟩ := h.exists_accesses hparent
  refine ⟨own, accesses.map accessorProperty, haccesses.properties,
    fun p hp className => haccesses.not_makes_own hp className, ?_⟩
  -- The names and the accessors match one by one because their classes do.
  have hall : List.Forall₂ (fun className access => className =
      Naming.resourceClass (Prod.snd access).path)
        (parent.1.children.map fun name =>
          Naming.resourceClass (Discovery.Resource.pathIn parent.1.path name)) accesses := by
    rw [← hclasses, List.forall₂_map_left_iff]
    exact List.forall₂_same.2 fun _ _ => rfl
  rw [List.forall₂_map_left_iff] at hall
  rw [List.forall₂_map_right_iff, List.forall₂_iff_zip]
  refine ⟨hall.length_eq, fun {name access} hmem => ?_⟩
  exact (haccesses.makes_iff _ _).2
    ⟨access, (List.of_mem_zip hmem).2, rfl, (List.forall₂_iff_zip.1 hall).2 hmem⟩

/-! ## Chains of properties -/

theorem IsMadeFor.exists_placed {chain : List Property} {c : Class} (hleads : m.Leads chain c) :
    ∃ site, (site, c) ∈ m.placed described.body := by
  cases hleads with
  | service => exact ⟨⟨[], described.body⟩, List.mem_cons_self⟩
  | accessor _ hchild _ =>
    rw [← h.map_snd_below] at hchild
    obtain ⟨q, hq, rfl⟩ := List.mem_map.1 hchild
    exact ⟨q.1, List.mem_cons_of_mem _ hq⟩

theorem IsMadeFor.service_not_mem : m.service ∉ m.resources := by
  have hdistinct := h.distinct
  rw [List.map_cons, List.nodup_cons] at hdistinct
  exact fun hmem => hdistinct.1 (List.mem_map_of_mem hmem)

/-- At most one chain leads to a class: the class determines the place right above it, and there
the property that makes it. -/
theorem IsMadeFor.leads_unique {chain other : List Property} {c : Class}
    (hleads : m.Leads chain c) (hother : m.Leads other c) : other = chain := by
  induction hleads generalizing other with
  | service =>
    cases hother with
    | service => rfl
    | accessor _ hchild _ => exact absurd hchild h.service_not_mem
  | @accessor chain c child p hleads hchild hmakes ih =>
    cases hother with
    | service => exact absurd hchild h.service_not_mem
    | @accessor chain' c' _ p' hleads' _ hmakes' =>
      obtain ⟨site, hsite⟩ := h.exists_placed hleads
      obtain ⟨site', hsite'⟩ := h.exists_placed hleads'
      obtain ⟨q, hq, name, htrail, hname⟩ := h.exists_child_of_makes hsite hmakes
      obtain ⟨q', hq', name', htrail', hname'⟩ := h.exists_child_of_makes hsite' hmakes'
      -- Both chains end in the same place, and there is one place right above it.
      have hsame : q = q' := h.eq_of_name (List.mem_cons_of_mem _ hq) (List.mem_cons_of_mem _ hq')
        (hname.trans hname'.symm)
      subst hsame
      have htrails := (List.append_inj' (htrail.symm.trans htrail') rfl).1
      cases h.eq_of_trail hsite hsite' htrails
      have hunique := h.existsUnique_makes hsite hq htrail
      rw [hname] at hunique
      rw [ih hleads', hunique.unique hmakes' hmakes]

/-- A chain leads to every place; the induction is on the length of its trail. -/
theorem IsMadeFor.exists_leads (length : Nat) :
    ∀ q ∈ m.placed described.body, q.1.trail.length = length → ∃ chain, m.Leads chain q.2 := by
  induction length with
  | zero =>
    intro q hq hlength
    have htrail : q.1.trail = [] := List.eq_nil_of_length_eq_zero hlength
    have hroot : q = (⟨[], described.body⟩, m.service) :=
      h.eq_of_trail hq List.mem_cons_self htrail
    rw [hroot]
    exact ⟨[], .service⟩
  | succ length ih =>
    intro q hq hlength
    rcases List.mem_cons.1 hq with rfl | hbelow
    · cases hlength
    · obtain ⟨parent, hparent, name, -, htrail⟩ := h.exists_parent hbelow
      rw [htrail, List.length_append] at hlength
      obtain ⟨chain, hchain⟩ := ih parent hparent (Nat.succ.inj hlength)
      obtain ⟨p, hmakes, -⟩ := h.existsUnique_makes hparent hbelow htrail
      have hchild : q.2 ∈ m.resources := h.map_snd_below ▸ List.mem_map_of_mem hbelow
      exact ⟨chain ++ [p], .accessor hchain hchild hmakes⟩

end Placed

/-! ## The mirror -/

/-- The classes of a module mirror the resources of a tree as the service reads them. -/
structure Mirrors (m : Module) (service : Service) (body : Json.Members) : Prop where
  /-- The walk visits the sites in order. -/
  walk : Discovery.Tree.visitNested "" body =
    .ok ((sitesBelow body).map fun site => (site.path, site.members))
  /-- There is one class for each site. -/
  length : m.resources.length = (sitesBelow body).length
  /-- The constant of a class is the path of its site. -/
  fields : ∀ q ∈ m.below body, q.2.fields = [⟨"RESOURCE", .str q.1.path⟩]
  /-- The methods of a class are those that its site declares, in order. -/
  methods : ∀ q ∈ m.below body,
    q.2.methods.map (fun made => (made.resource, made.discoveryName)) =
      (Json.keys q.1.methods).map fun name => (q.1.path, name)
  /-- Each method is made from what the site declares. -/
  made : ∀ q ∈ m.below body,
    List.Forall₂ (Method.IsMadeFrom (.obj body) q.1.path) q.1.methods q.2.methods
  /-- The methods of all classes are those of the service, in order. -/
  allMethods : (m.resources.flatMap fun c =>
      c.methods.map fun made => (made.resource, made.discoveryName)) =
    service.methods.map fun p => (p.1, p.2.name)
  /-- There are as many methods as the service has. -/
  methodCount : m.methodCount = service.methods.length
  /-- No two classes share a name. -/
  distinct : ((m.service :: m.resources).map Class.name).Nodup
  /-- The accessors of a class are in the order of the resources right below its site. -/
  order : ∀ q ∈ m.placed body, q.2.GivesAccess q.1
  /-- Every class of a resource has a class right above it. -/
  parent : ∀ q ∈ m.below body, ∃ parent ∈ m.placed body, ∃ name,
    q.1.trail = parent.1.trail ++ [name]
  /-- The class right above has exactly one property that makes the class. -/
  accessor : ∀ parent ∈ m.placed body, ∀ q ∈ m.below body, ∀ name,
    q.1.trail = parent.1.trail ++ [name] → ∃! p, parent.2.Makes p q.2.name
  /-- Exactly one chain of properties leads from the class of the service to the class. -/
  reached : ∀ c ∈ m.resources, ∃! chain, m.Leads chain c

theorem IsMadeFor.methods_below {m : Module} {document : Json} {service : Service}
    {described : Document} (h : m.IsMadeFor document service described) {q : Site × Class}
    (hq : q ∈ m.below described.body) :
    List.Forall₂ (Method.IsMadeFrom (.obj described.body) q.1.path) q.1.methods q.2.methods := by
  obtain ⟨⟨doc, methods, hmethods, hc⟩, -⟩ := h.isClassOf hq
  rw [hc]
  exact hmethods

/-- Methods that are made one by one have the names of what they are made from. -/
theorem names_of_isMadeFrom {body : Json} {path : String} {declared : Json.Members}
    {methods : List Method} (h : List.Forall₂ (Method.IsMadeFrom body path) declared methods) :
    methods.map (fun made => (made.resource, made.discoveryName)) =
      (Json.keys declared).map fun name => (path, name) := by
  rw [Json.keys, List.map_map]
  refine (map_eq_map_of_forall₂ h fun member made hmade => ?_).symm
  obtain ⟨-, -, -, -, -, -, hpath, hname, -⟩ := Method.ofDeclared_eq_ok hmade
  exact (Prod.ext hpath hname).symm

theorem methodCount_eq (m : Module) :
    m.methodCount = (m.resources.flatMap fun c =>
      c.methods.map fun made => (made.resource, made.discoveryName)).length := by
  rw [methodCount]
  induction m.resources with
  | nil => rfl
  | cons c resources ih => rw [List.foldr_cons, List.flatMap_cons, List.length_append,
      List.length_map, ih]

/-- A module that is made for a document mirrors its resources. -/
theorem ofDocument_mirrors {document : Json} {m : Module} {log : List Log.Record}
    (h : ofDocument document = (.ok m, log)) :
    ∃ service described, Service.ofJson document = .ok service ∧
      Document.ofJson document = .ok described ∧ m.Mirrors service described.body := by
  obtain ⟨service, described, hm⟩ := ofDocument_spec h
  refine ⟨service, described, hm.readService, hm.readDocument, ?_⟩
  have hmethods : ∀ q ∈ m.below described.body,
      q.2.methods.map (fun made => (made.resource, made.discoveryName)) =
        (Json.keys q.1.methods).map fun name => (q.1.path, name) :=
    fun q hq => names_of_isMadeFrom (hm.methods_below hq)
  have hall : (m.resources.flatMap fun c =>
      c.methods.map fun made => (made.resource, made.discoveryName)) =
        service.methods.map fun p => (p.1, p.2.name) := by
    rw [Service.methods, Discovery.Resource.allMethodsBelow_eq hm.readResources,
      ← hm.map_fst_below, ← hm.map_snd_below, List.flatMap_map, List.flatMap_map]
    exact List.flatMap_congr hmethods
  have hcount : m.methodCount = service.methods.length := by
    rw [methodCount_eq, hall, List.length_map]
  refine ⟨Discovery.Tree.visitNested_eq_ok hm.isTree "", hm.siteClasses.length_eq.symm, ?_,
    hmethods, fun q hq => hm.methods_below hq, hall, hcount, hm.distinct,
    fun q hq => hm.givesAccess hq, ?_, fun parent hparent q hq name htrail =>
      hm.existsUnique_makes hparent hq htrail, ?_⟩
  · intro q hq
    obtain ⟨⟨doc, methods, -, hc⟩, -⟩ := hm.isClassOf hq
    rw [hc]
    rfl
  · intro q hq
    obtain ⟨parent, hparent, name, -, htrail⟩ := hm.exists_parent hq
    exact ⟨parent, hparent, name, htrail⟩
  · intro c hc
    rw [← hm.map_snd_below] at hc
    obtain ⟨q, hq, rfl⟩ := List.mem_map.1 hc
    obtain ⟨chain, hchain⟩ := hm.exists_leads _ q (List.mem_cons_of_mem _ hq) rfl
    exact ⟨chain, hchain, fun other hother => hm.leads_unique hchain hother⟩

/-- A document with a resource of no name, one with a dotted name, and three levels of resources. -/
def sampleTree : Json :=
  .obj [("name", .str "buzz"), ("version", .str "v1"), ("baseUrl", .str "https://a/"),
    ("resources", .obj
      [("", .obj
        [("methods", .obj [("get", .obj [("path", .str "g")])]),
         ("resources", .obj
          [("a", .obj
            [("resources", .obj
              [("b.c", .obj [("methods", .obj [("list", .obj [("restPath", .str "l")])])])])])])]),
       ("a.x", .obj [("methods", .obj [("put", .obj [("path", .str "p")])])])])]

theorem ofDocument_mirrors_sampleTree :
    ∃ m log service described, ofDocument sampleTree = (.ok m, log) ∧
      m.resources.map (fun c => (c.name, c.methods.map Method.name)) =
        [("_Resource", ["get"]), ("AResource", []), ("ABCResource", ["list"]),
          ("AXResource", ["put"])] ∧
      Service.ofJson sampleTree = .ok service ∧ Document.ofJson sampleTree = .ok described ∧
      m.Mirrors service described.body := by
  obtain ⟨m, hm, hnames⟩ := Outcome.exists_ok_of_map
    (show (ofDocument sampleTree).1.toOption.map (fun m =>
        m.resources.map fun c => (c.name, c.methods.map Method.name)) =
      some [("_Resource", ["get"]), ("AResource", []), ("ABCResource", ["list"]),
        ("AXResource", ["put"])] by decide)
  have hmade := Outcome.eq_of_fst hm
  obtain ⟨service, described, hservice, hdescribed, hmirrors⟩ := ofDocument_mirrors hmade
  exact ⟨m, _, service, described, hmade, hnames, hservice, hdescribed, hmirrors⟩

end Module
end ApiDiscovery.Source
