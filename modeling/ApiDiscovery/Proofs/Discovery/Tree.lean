import ApiDiscovery.Discovery.Service
import ApiDiscovery.Discovery.Tree
import ApiDiscovery.Proofs.Discovery.Read
import ApiDiscovery.Proofs.Json.Keys

/-!
# Sites of resources

A site is a place in the tree of resources: the names that lead there, and the members of the object
there (`Tree.sites`, a resource before those in it). Three readers go through the tree, and each is
described by the sites: the walk gives every site with its dotted path (`Tree.visitNested_eq_ok`),
the resources that are read have the methods declared at a site, behind its trail
(`Resource.find?_of_mem_sitesBelow`), and the methods below them come site by site
(`Resource.allMethodsBelow_eq`). The sites right below a site are listed in order
(`Tree.children_sublist`), and there is no other site (`Tree.exists_parent`).
-/

namespace ApiDiscovery.Discovery

open Outcome

/-- A place in the tree of resources: the names that lead to it, and the members of the object that
is there. -/
structure Site where
  trail : List String
  members : Json.Members

namespace Site

/-- The site with the name of the resource that its trail starts in. -/
def below (name : String) (site : Site) : Site := ⟨name :: site.trail, site.members⟩

/-- The dotted path of a site whose trail starts at the path `above`. -/
def pathFrom (above : String) (site : Site) : String := site.trail.foldl Resource.pathIn above

/-- The dotted path of a site from the top. -/
def path (site : Site) : String := site.pathFrom ""

/-- What is declared at a site under one of the keys for objects, if it is an object. -/
def declared (site : Site) (key : String) : Json.Members :=
  (Json.objectAt site.members key).toOption.getD []

/-- The methods that are declared at a site. -/
def methods (site : Site) : Json.Members := site.declared "methods"

/-- The names of the resources right below a site. -/
def children (site : Site) : List String := Json.keys (site.declared "resources")

/-- The names of the methods that are declared at a site, each with the path of the site. -/
def methodNames (above : String) (site : Site) : List (String × String) :=
  (Json.keys site.methods).map fun name => (site.pathFrom above, name)

/-- A site one name further down has a path one name longer. -/
theorem path_of_trail {parent site : Site} {name : String}
    (h : site.trail = parent.trail ++ [name]) : site.path = Resource.pathIn parent.path name := by
  rw [path, pathFrom, h, List.foldl_append]
  rfl

end Site

namespace Tree

mutual

/-- The place of a resource itself and all places in it. -/
def sites : Json → List Site
  | .obj members => ⟨[], members⟩ :: sitesBelow members
  | _ => []

/-- All places in the first member called `resources`. -/
def sitesBelow : List (String × Json) → List Site
  | [] => []
  | (key, value) :: rest =>
    if key = "resources" then
      match value with
      | .obj resources => sitesOf resources
      | _ => []
    else sitesBelow rest

/-- All places in the resources of an object. -/
def sitesOf : List (String × Json) → List Site
  | [] => []
  | (name, resource) :: rest => (sites resource).map (Site.below name) ++ sitesOf rest

end

/-- Every resource is an object, and what it has under `resources` is an object of resources. -/
inductive IsTree : Json.Members → Prop where
  | node {members declared : Json.Members}
      (hdeclared : Json.objectAt members "resources" = .ok declared)
      (hobject : ∀ p ∈ declared, ∃ inner, p.2 = .obj inner)
      (hinner : ∀ p ∈ declared, ∀ inner, p.2 = .obj inner → IsTree inner) : IsTree members

/-! ## The member called `resources` -/

theorem objectAt_cons (name : String) (value : Json) (rest : Json.Members) (key : String) :
    Json.objectAt ((name, value) :: rest) key =
      if name = key then value.asObject else Json.objectAt rest key := by
  rw [Json.objectAt, Json.objectAt, Json.getOr, Json.getOr, Json.lookup, List.lookup_cons]
  by_cases h : name = key
  · subst h
    rw [beq_self_eq_true, if_pos rfl]
    rfl
  · rw [beq_eq_false_iff_ne.2 (Ne.symm h), if_neg h]
    rfl

theorem visitNested_eq (above : String) (members : Json.Members) :
    visitNested above members = Json.objectAt members "resources" >>= visitAll above := by
  induction members with
  | nil => rfl
  | cons p members ih =>
    obtain ⟨key, value⟩ := p
    rw [objectAt_cons]
    by_cases hkey : key = "resources"
    · cases value <;> simp only [visitNested, if_pos hkey, Json.asObject] <;> rfl
    · rw [if_neg hkey, ← ih]
      cases value <;> simp only [visitNested, if_neg hkey]

theorem nested_eq (shared : Ordered Parameter) (members : Json.Members) :
    Resource.nested shared members =
      Json.objectAt members "resources" >>= Resource.allOfJson shared := by
  induction members with
  | nil =>
    rw [Resource.nested]
    exact (Resource.allOfJson.eq_1 shared).symm
  | cons p members ih =>
    obtain ⟨key, value⟩ := p
    rw [objectAt_cons]
    by_cases hkey : key = "resources"
    · cases value <;> simp only [Resource.nested, if_pos hkey, Json.asObject] <;> rfl
    · rw [if_neg hkey, ← ih]
      cases value <;> simp only [Resource.nested, if_neg hkey]

theorem sitesBelow_eq {members declared : Json.Members}
    (h : Json.objectAt members "resources" = .ok declared) :
    sitesBelow members = sitesOf declared := by
  induction members with
  | nil =>
    cases h
    rfl
  | cons p members ih =>
    obtain ⟨key, value⟩ := p
    rw [objectAt_cons] at h
    by_cases hkey : key = "resources"
    · rw [if_pos hkey] at h
      cases value with
      | obj resources =>
        cases h
        rw [sitesBelow, if_pos hkey]
      | _ => cases h
    · rw [if_neg hkey] at h
      rw [← ih h]
      cases value <;> simp only [sitesBelow, if_neg hkey]

theorem sitesOf_eq (declared : Json.Members) :
    sitesOf declared = declared.flatMap fun p => (sites p.2).map (Site.below p.1) := by
  induction declared with
  | nil => rfl
  | cons p declared ih => rw [sitesOf, List.flatMap_cons, ih]

theorem mem_sitesOf {declared : Json.Members} {site : Site} :
    site ∈ sitesOf declared ↔ ∃ p ∈ declared, ∃ inner ∈ sites p.2, inner.below p.1 = site := by
  simp only [sitesOf_eq, List.mem_flatMap, List.mem_map]

theorem mem_sites {members : Json.Members} {site : Site} :
    site ∈ sites (.obj members) ↔ site = ⟨[], members⟩ ∨ site ∈ sitesBelow members := by
  rw [sites, List.mem_cons]

/-- A site below an object is in one of the resources there, which are objects themselves. -/
theorem exists_of_mem_sitesBelow {members declared : Json.Members}
    (hdeclared : Json.objectAt members "resources" = .ok declared)
    (hobject : ∀ p ∈ declared, ∃ inner, p.2 = .obj inner) {site : Site}
    (hsite : site ∈ sitesBelow members) :
    ∃ p ∈ declared, ∃ found, p.2 = .obj found ∧
      ∃ inner ∈ sites (.obj found), inner.below p.1 = site := by
  rw [sitesBelow_eq hdeclared, mem_sitesOf] at hsite
  obtain ⟨p, hp, inner, hinner, hbelow⟩ := hsite
  obtain ⟨found, hfound⟩ := hobject p hp
  exact ⟨p, hp, found, hfound, inner, hfound ▸ hinner, hbelow⟩

theorem ofJson_obj {shared : Ordered Parameter} {name : String} {members : Json.Members}
    {resource : Resource} (h : Resource.ofJson shared name (.obj members) = .ok resource) :
    ∃ declared methods resources, Json.objectAt members "methods" = .ok declared ∧
      Method.allOfJson shared declared = .ok methods ∧
      Resource.nested shared members = .ok resources ∧
      resource = .node name methods resources := by
  simp only [Resource.ofJson, bind_eq_ok, pure_eq_ok] at h
  obtain ⟨declared, hdeclared, methods, hmethods, resources, hresources, rfl⟩ := h
  exact ⟨declared, methods, resources, hdeclared, hmethods, hresources, rfl⟩

/-- Whatever is read as resources is a tree of them. The three parts follow the three readers. -/
theorem isTree_of_read (shared : Ordered Parameter) :
    (∀ name value, ∀ resource, Resource.ofJson shared name value = .ok resource →
        ∃ members, value = .obj members ∧ IsTree members) ∧
      (∀ members, ∀ resources, Resource.nested shared members = .ok resources →
        IsTree members) ∧
      (∀ declared, ∀ resources, Resource.allOfJson shared declared = .ok resources →
        ∀ p ∈ declared, ∃ members, p.2 = .obj members ∧ IsTree members) := by
  apply Resource.ofJson.mutual_induct
  case case1 =>
    intro name members ih resource h
    obtain ⟨-, -, resources, -, -, hresources, -⟩ := ofJson_obj h
    exact ⟨members, rfl, ih resources hresources⟩
  case case2 =>
    intro value name hvalue resource h
    rw [Resource.ofJson] at h
    · cases h
    · exact hvalue
  case case3 =>
    intro resources h
    exact .node rfl (fun p hp => absurd hp List.not_mem_nil)
      (fun p hp => absurd hp List.not_mem_nil)
  case case4 =>
    -- The first member is the one called `resources`, and the reader of its value says it all.
    intro rest declared ih resources h
    rw [nested_eq, objectAt_cons, if_pos rfl] at h
    have hinner := ih resources h
    refine @IsTree.node _ declared ?_ ?_ ?_
    · rw [objectAt_cons, if_pos rfl]
      rfl
    · intro p hp
      obtain ⟨members, hmembers, -⟩ := hinner p hp
      exact ⟨members, hmembers⟩
    · intro p hp members hmembers
      obtain ⟨found, hfound, htree⟩ := hinner p hp
      rw [hmembers] at hfound
      cases hfound
      exact htree
  case case5 =>
    intro value rest hvalue resources h
    rw [nested_eq, objectAt_cons, if_pos rfl] at h
    cases value with
    | obj members => exact absurd rfl (hvalue members)
    | _ => cases h
  case case6 =>
    -- Any other member is passed over.
    intro key value rest hkey ih resources h
    rw [nested_eq, objectAt_cons, if_neg hkey, ← nested_eq] at h
    cases ih resources h with
    | node hdeclared hobject hinner =>
      refine .node ?_ hobject hinner
      rw [objectAt_cons, if_neg hkey]
      exact hdeclared
  case case7 =>
    intro resources h p hp
    exact absurd hp List.not_mem_nil
  case case8 =>
    intro name value rest ihfirst ihrest resources h p hp
    simp only [Resource.allOfJson, bind_eq_ok, pure_eq_ok] at h
    obtain ⟨resource, hresource, others, hothers, -⟩ := h
    rcases List.mem_cons.1 hp with rfl | hp
    · exact ihfirst resource hresource
    · exact ihrest others hothers p hp

theorem isTree_of_nested {shared : Ordered Parameter} {members : Json.Members}
    {resources : Ordered Resource} (h : Resource.nested shared members = .ok resources) :
    IsTree members :=
  (isTree_of_read shared).2.1 members resources h

/-- At every site there is a tree again. -/
theorem isTree_of_mem_sites {members : Json.Members} (h : IsTree members) :
    ∀ site ∈ sites (.obj members), IsTree site.members := by
  induction h with
  | @node members declared hdeclared hobject hinner ih =>
    intro site hsite
    rcases mem_sites.1 hsite with rfl | hsite
    · exact .node hdeclared hobject hinner
    · obtain ⟨p, hp, found, hfound, inner, hwithin, rfl⟩ :=
        exists_of_mem_sitesBelow hdeclared hobject hsite
      exact ih p hp found hfound inner hwithin

theorem hasDistinctKeys_of_mem_sitesBelow {members : Json.Members} (h : IsTree members)
    (hkeys : (Json.obj members).hasDistinctKeys = true) :
    ∀ site ∈ sitesBelow members, (Json.obj site.members).hasDistinctKeys = true := by
  induction h with
  | @node members declared hdeclared hobject hinner ih =>
    intro site hsite
    obtain ⟨p, hp, found, hfound, inner, hwithin, rfl⟩ :=
      exists_of_mem_sitesBelow hdeclared hobject hsite
    have hvalues := ((Json.hasDistinctKeys_obj declared).1
      (Json.hasDistinctKeys_objectAt hkeys hdeclared)).2
    have hfoundKeys : (Json.obj found).hasDistinctKeys = true := hfound ▸ hvalues p hp
    rcases mem_sites.1 hwithin with rfl | hwithin
    · exact hfoundKeys
    · exact ih p hp found hfound hfoundKeys inner hwithin

/-! ## The walk -/

/-- A site as the walk from the path `above` gives it. -/
def visited (above : String) (site : Site) : String × Json.Members :=
  (site.pathFrom above, site.members)

theorem visitAll_eq_ok {declared : Json.Members}
    (h : ∀ p ∈ declared, ∀ above,
      visit above p.2 = .ok ((sites p.2).map (visited above))) (above : String) :
    visitAll above declared = .ok ((sitesOf declared).map (visited above)) := by
  induction declared with
  | nil => rfl
  | cons p declared ih =>
    have hfirst := h p List.mem_cons_self (Resource.pathIn above p.1)
    have hrest := ih fun q hq => h q (List.mem_cons_of_mem p hq)
    rw [visitAll, hfirst, hrest, sitesOf, List.map_append, List.map_map]
    rfl

/-- The walk through a tree gives every site with its path. -/
theorem visitNested_eq_ok {members : Json.Members} (h : IsTree members) (above : String) :
    visitNested above members = .ok ((sitesBelow members).map (visited above)) := by
  induction h generalizing above with
  | @node members declared hdeclared hobject hinner ih =>
    rw [visitNested_eq, hdeclared, sitesBelow_eq hdeclared]
    refine visitAll_eq_ok ?_ above
    intro p hp above
    obtain ⟨inner, hvalue⟩ := hobject p hp
    rw [hvalue, visit, ih p hp inner hvalue above, sites, List.map_cons]
    rfl

/-! ## Sites right below a site -/

theorem trail_ne_nil {members : Json.Members} (h : IsTree members) {site : Site}
    (hsite : site ∈ sitesBelow members) : site.trail ≠ [] := by
  cases h with
  | node hdeclared hobject hinner =>
    obtain ⟨p, -, found, -, inner, -, rfl⟩ := exists_of_mem_sitesBelow hdeclared hobject hsite
    exact List.cons_ne_nil _ _

theorem children_eq {site : Site} {declared : Json.Members}
    (h : Json.objectAt site.members "resources" = .ok declared) :
    site.children = Json.keys declared := by
  rw [Site.children, Site.declared, h]
  rfl

/-- A list with one item for each item of another one is part of any list with at least these items
for each. -/
theorem map_sublist_flatMap {α β : Type} {f : α → β} {g : α → List β} {l : List α}
    (h : ∀ a ∈ l, [f a].Sublist (g a)) : (l.map f).Sublist (l.flatMap g) := by
  induction l with
  | nil => exact List.Sublist.refl []
  | cons a l ih =>
    rw [List.map_cons, List.flatMap_cons]
    exact (h a List.mem_cons_self).append (ih fun b hb => h b (List.mem_cons_of_mem a hb))

theorem trails_sitesOf (declared : Json.Members) :
    (sitesOf declared).map Site.trail =
      declared.flatMap fun p => (sites p.2).map fun site => p.1 :: site.trail := by
  rw [sitesOf_eq, List.map_flatMap]
  simp only [List.map_map]
  rfl

/-- The sites right below a site are among all sites, in order. -/
theorem children_sublist {members : Json.Members} (h : IsTree members) :
    ∀ site ∈ sites (.obj members),
      (site.children.map fun name => site.trail ++ [name]).Sublist
        ((sitesBelow members).map Site.trail) := by
  induction h with
  | @node members declared hdeclared hobject hinner ih =>
    intro site hsite
    rw [sitesBelow_eq hdeclared, trails_sitesOf]
    rcases mem_sites.1 hsite with rfl | hsite
    · -- Each resource of the tree is the first of its own sites.
      rw [children_eq hdeclared, Json.keys, List.map_map]
      apply map_sublist_flatMap
      intro p hp
      obtain ⟨found, hfound⟩ := hobject p hp
      rw [hfound, sites, List.map_cons]
      exact List.Sublist.cons_cons _ (List.nil_sublist _)
    · -- The sites of one resource stand together, so it is enough to look at these.
      obtain ⟨p, hp, found, hfound, inner, hwithin, rfl⟩ :=
        exists_of_mem_sitesBelow hdeclared hobject hsite
      have hbelow := (ih p hp found hfound inner hwithin).map (p.1 :: ·)
      have hblock : (((sitesBelow found).map Site.trail).map (p.1 :: ·)).Sublist
          ((sites p.2).map fun site => p.1 :: site.trail) := by
        rw [hfound, sites, List.map_cons, List.map_map]
        exact List.sublist_cons_self _ _
      have hall : ((sites p.2).map fun site => p.1 :: site.trail).Sublist
          (declared.flatMap fun p => (sites p.2).map fun site => p.1 :: site.trail) :=
        List.sublist_flatten_of_mem (List.mem_map_of_mem hp)
      rw [List.map_map] at hbelow
      exact (hbelow.trans hblock).trans hall

/-- Every site but that of the tree itself is right below a site. -/
theorem exists_parent {members : Json.Members} (h : IsTree members) :
    ∀ site ∈ sitesBelow members, ∃ parent ∈ sites (.obj members), ∃ name ∈ parent.children,
      site.trail = parent.trail ++ [name] := by
  induction h with
  | @node members declared hdeclared hobject hinner ih =>
    intro site hsite
    obtain ⟨p, hp, found, hfound, inner, hwithin, rfl⟩ :=
      exists_of_mem_sitesBelow hdeclared hobject hsite
    rcases mem_sites.1 hwithin with rfl | hwithin
    · refine ⟨⟨[], members⟩, mem_sites.2 (.inl rfl), p.1, ?_, rfl⟩
      rw [children_eq hdeclared]
      exact List.mem_map_of_mem hp
    · obtain ⟨parent, hparent, name, hname, htrail⟩ := ih p hp found hfound inner hwithin
      refine ⟨parent.below p.1, mem_sites.2 (.inr ?_), name, hname, congrArg (p.1 :: ·) htrail⟩
      rw [sitesBelow_eq hdeclared, mem_sitesOf]
      exact ⟨p, hp, parent, hfound ▸ hparent, rfl⟩

end Tree

namespace Resource

open Discovery.Tree

/-! ## The resources that are read -/

theorem find?_cons {name : String} {trail : List String} (h : trail ≠ [])
    (resources : Ordered Resource) :
    find? (name :: trail) resources =
      (Ordered.get? resources name).bind fun r => find? trail r.resources := by
  cases trail with
  | nil => exact absurd rfl h
  | cons next trail => rfl

/-- Behind the trail of a site is the resource with the methods that are declared there. -/
theorem find?_of_mem_sitesBelow {shared : Ordered Parameter} {members : Json.Members}
    (hkeys : (Json.obj members).hasDistinctKeys = true) {resources : Ordered Resource}
    (h : nested shared members = .ok resources) {site : Site}
    (hsite : site ∈ sitesBelow members) :
    ∃ resource, find? site.trail resources = some resource ∧
      Json.objectAt site.members "methods" = .ok site.methods ∧
      Method.allOfJson shared site.methods = .ok resource.methods := by
  induction isTree_of_nested h generalizing resources site with
  | @node members declared hdeclared hobject hinner ih =>
    obtain ⟨p, hp, found, hfound, inner, hwithin, rfl⟩ :=
      exists_of_mem_sitesBelow hdeclared hobject hsite
    rw [nested_eq, hdeclared] at h
    have hdistinct := (Json.hasDistinctKeys_obj declared).1
      (Json.hasDistinctKeys_objectAt hkeys hdeclared)
    -- As keys are distinct, it is this very member whose resource is found under its name.
    obtain ⟨resource, hget, hread⟩ := get?_of_isReadAs (Resource.allOfJson_isReadAs h)
      (Ordered.get?_of_mem hdistinct.1 hp)
    rw [hfound] at hread
    obtain ⟨declaredMethods, methods, nested, hmethods, hall, hnested, rfl⟩ := ofJson_obj hread
    rcases mem_sites.1 hwithin with rfl | hwithin
    · refine ⟨_, hget, ?_⟩
      rw [Site.methods, Site.declared, Site.below, hmethods]
      exact ⟨rfl, hall⟩
    · have hinnerKeys : (Json.obj found).hasDistinctKeys = true := hfound ▸ hdistinct.2 p hp
      obtain ⟨behind, hfind, hsiteMethods⟩ := ih p hp found hfound hinnerKeys hnested hwithin
      refine ⟨behind, ?_, hsiteMethods⟩
      rw [Site.below, find?_cons (trail_ne_nil (hinner p hp found hfound) hwithin), hget]
      exact hfind

/-! ## The methods that are read -/

theorem methodsBelow_eq {shared : Ordered Parameter} {name : String} {members : Json.Members}
    {resource : Resource} (h : ofJson shared name (.obj members) = .ok resource) {above : String}
    (hbelow : ∀ resources, nested shared members = .ok resources →
      (allMethodsBelow above resources).map (fun p => (p.1, p.2.name)) =
        (sitesBelow members).flatMap (Site.methodNames above)) :
    (methodsBelow above resource).map (fun p => (p.1, p.2.name)) =
      (sites (.obj members)).flatMap (Site.methodNames above) := by
  obtain ⟨declared, methods, resources, hmethods, hall, hnested, rfl⟩ := ofJson_obj h
  have hnames := Method.names_of_allOfJson hall
  have hsite : Site.methods ⟨[], members⟩ = declared := by
    rw [Site.methods, Site.declared, hmethods]
    rfl
  rw [methodsBelow, List.map_append, hbelow resources hnested, sites, List.flatMap_cons,
    Site.methodNames, hsite, ← hnames, List.map_map, List.map_map]
  rfl

theorem allMethodsBelow_of_isReadAs {shared : Ordered Parameter} {declared : Json.Members}
    {resources : Ordered Resource}
    (h : List.Forall₂ (IsReadAs (ofJson shared)) declared resources)
    (hbelow : ∀ p ∈ declared, ∀ resource above, ofJson shared p.1 p.2 = .ok resource →
      (methodsBelow above resource).map (fun p => (p.1, p.2.name)) =
        (sites p.2).flatMap (Site.methodNames above)) (above : String) :
    (allMethodsBelow above resources).map (fun p => (p.1, p.2.name)) =
      (sitesOf declared).flatMap (Site.methodNames above) := by
  induction h with
  | nil => rfl
  | @cons p pair declared resources hpair hrest ih =>
    have hfirst := hbelow p List.mem_cons_self pair.2 (pathIn above p.1) hpair.value
    rw [allMethodsBelow, List.map_append, hpair.name, hfirst,
      ih fun q hq => hbelow q (List.mem_cons_of_mem p hq), sitesOf, List.flatMap_append,
      List.flatMap_map]
    rfl

/-- The methods below a tree come site by site, in the order in which each site declares them. -/
theorem allMethodsBelow_eq {shared : Ordered Parameter} {members : Json.Members}
    {resources : Ordered Resource} (h : nested shared members = .ok resources) (above : String) :
    (allMethodsBelow above resources).map (fun p => (p.1, p.2.name)) =
      (sitesBelow members).flatMap (Site.methodNames above) := by
  induction isTree_of_nested h generalizing resources above with
  | @node members declared hdeclared hobject hinner ih =>
    rw [nested_eq, hdeclared] at h
    rw [sitesBelow_eq hdeclared]
    refine allMethodsBelow_of_isReadAs (Resource.allOfJson_isReadAs h) ?_ above
    intro p hp resource above hread
    obtain ⟨found, hfound⟩ := hobject p hp
    rw [hfound] at hread ⊢
    exact methodsBelow_eq hread fun resources hresources =>
      ih p hp found hfound hresources above

end Resource

/-! ## The service that is read -/

/-- Where a document has distinct keys, so has its description. -/
theorem Document.hasDistinctKeys_body {document : Json} {described : Document}
    (hkeys : document.hasDistinctKeys = true) (h : ofJson document = .ok described) :
    (Json.obj described.body).hasDistinctKeys = true := by
  unfold ofJson at h
  split at h
  · next members =>
    split at h
    · next found hnewer =>
      cases h
      unfold newer? at hnewer
      split at hnewer
      · cases hnewer
        exact hkeys
      · cases hnewer
    · split at h
      · next found holder =>
        cases h
        unfold older? at holder
        split at holder
        · next name version body hdata =>
          cases holder
          have hvalues := ((Json.hasDistinctKeys_obj members).1 hkeys).2
          have hversions := hvalues _ (Ordered.mem_of_get? hdata)
          have hbodies := ((Json.hasDistinctKeys_obj _).1 hversions).2 _ List.mem_cons_self
          exact ((Json.hasDistinctKeys_obj _).1 hbodies).2 _ List.mem_cons_self
        · cases holder
      · cases h
  · cases h

theorem Service.ofJson_eq_ok {value : Json} {s : Service} (h : ofJson value = .ok s) :
    ∃ document declared, Document.ofJson value = .ok document ∧
      Json.objectAt document.body "parameters" = .ok declared ∧
      Parameter.allOfJson declared = .ok s.parameters ∧
      Resource.nested s.parameters document.body = .ok s.resources ∧
      s.name = document.name ∧ s.version = document.version := by
  simp only [ofJson, bind_eq_ok, pure_eq_ok] at h
  obtain ⟨document, hdocument, baseUri, -, declared, hdeclared, parameters, hparameters, resources,
    hresources, rfl⟩ := h
  exact ⟨document, declared, hdocument, hdeclared, hparameters, hresources, rfl, rfl⟩

end ApiDiscovery.Discovery
