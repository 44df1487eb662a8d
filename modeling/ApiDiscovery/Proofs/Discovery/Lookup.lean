import ApiDiscovery.Proofs.Discovery.Tree
import ApiDiscovery.Proofs.Text.Cutting
import Mathlib.Data.List.Nodup

/-!
# Looking up what is listed

The resources of a service stand behind trails of names (`Resource.trailsIn`), one for each site of
the document (`Resource.isSiteOf_trailsIn`). Going down a trail finds the resource behind it and no
other (`Resource.find?_eq_some_iff`), and where no name is empty or has a dot a dotted path is cut
into the trail that it was joined from (`splitAt_path`). So a method is found by the path and the
name under which it is listed, and what is not listed is not found
(`Service.ofJson_inverts`).
-/

namespace ApiDiscovery.Discovery

open Outcome

/-! ## Trails and dotted paths -/

/-- The name can be told from its neighbours in a dotted path. -/
def IsPlainName (name : String) : Prop := name ≠ "" ∧ '.' ∉ name.toList

instance (name : String) : Decidable (IsPlainName name) :=
  inferInstanceAs (Decidable (name ≠ "" ∧ '.' ∉ name.toList))

theorem toList_foldl_pathIn {above : String} (h : above ≠ "") (trail : List String) :
    (trail.foldl Resource.pathIn above).toList =
      List.intercalate ['.'] (above.toList :: trail.map String.toList) := by
  induction trail generalizing above with
  | nil => simp
  | cons name trail ih =>
    have hpath : Resource.pathIn above name = above ++ "." ++ name := if_neg h
    have hne : above ++ "." ++ name ≠ "" := by
      intro heq
      have := congrArg String.toList heq
      simp at this
    rw [List.foldl_cons, hpath, ih hne, List.map_cons]
    cases trail with
    | nil => simp [List.intercalate_cons_cons]
    | cons next trail => simp [List.intercalate_cons_cons]

/-- The path of a trail without empty names is its names with dots between them. -/
theorem toList_path {trail : List String} (h : ∀ name ∈ trail, name ≠ "") :
    (trail.foldl Resource.pathIn "").toList =
      List.intercalate ['.'] (trail.map String.toList) := by
  cases trail with
  | nil => rfl
  | cons name trail => exact toList_foldl_pathIn (h name List.mem_cons_self) trail

theorem splitAt_path {trail : List String} (hne : trail ≠ [])
    (h : ∀ name ∈ trail, IsPlainName name) :
    Text.splitAt '.' (trail.foldl Resource.pathIn "") = trail :=
  Text.splitAt_of_intercalate (toList_path fun name hname => (h name hname).1) hne
    fun name hname => (h name hname).2

/-- A path whose parts are not empty is the path of its parts. -/
theorem path_splitAt {path : String} (h : ∀ name ∈ Text.splitAt '.' path, name ≠ "") :
    (Text.splitAt '.' path).foldl Resource.pathIn "" = path := by
  apply String.toList_inj.1
  have hparts : (Text.splitAt '.' path).map String.toList =
      Text.pieces (· == '.') path.toList := by
    rw [Text.splitAt, List.map_map]
    calc
      _ = (Text.pieces (· == '.') path.toList).map id :=
        List.map_congr_left fun part _ => String.toList_ofList
      _ = _ := List.map_id _
  rw [toList_path h, hparts, Text.intercalate_pieces]

/-! ## Resources behind trails -/

namespace Resource

mutual

/-- A resource and all in it, each with the names that lead to it from there. -/
def trails : Resource → List (List String × Resource)
  | node name methods resources => ([], node name methods resources) :: trailsIn resources

/-- All resources in some, each with the names that lead to it. -/
def trailsIn : List (String × Resource) → List (List String × Resource)
  | [] => []
  | (name, resource) :: rest =>
    ((trails resource).map fun t => (name :: t.1, t.2)) ++ trailsIn rest

end

theorem trails_eq (r : Resource) : trails r = ([], r) :: trailsIn r.resources := by
  cases r with
  | node name methods resources => rw [trails, Resource.resources]

theorem trailsIn_eq (resources : Ordered Resource) :
    trailsIn resources =
      resources.flatMap fun p => (trails p.2).map fun t => (p.1 :: t.1, t.2) := by
  induction resources with
  | nil => rfl
  | cons p resources ih => rw [trailsIn, List.flatMap_cons, ih]

/-- A trail goes to a resource with the first name on it, and ends there or goes on in it. -/
theorem cons_mem_trailsIn {name : String} {trail : List String} {r : Resource}
    {resources : Ordered Resource} :
    (name :: trail, r) ∈ trailsIn resources ↔
      ∃ q, (name, q) ∈ resources ∧ (trail = [] ∧ r = q ∨ (trail, r) ∈ trailsIn q.resources) := by
  simp only [trailsIn_eq resources, trails_eq, List.mem_flatMap, List.mem_map, List.mem_cons,
    Prod.mk.injEq, List.cons.injEq]
  constructor
  · rintro ⟨⟨key, q⟩, hq, t, ht, ⟨rfl, rfl⟩, rfl⟩
    refine ⟨q, hq, ht.imp ?_ id⟩
    rintro rfl
    exact ⟨rfl, rfl⟩
  · rintro ⟨q, hq, ht⟩
    refine ⟨(name, q), hq, (trail, r), ht.imp ?_ id, ⟨rfl, rfl⟩, rfl⟩
    rintro ⟨rfl, rfl⟩
    rfl

theorem nil_not_mem_trailsIn {r : Resource} {resources : Ordered Resource} :
    ([], r) ∉ trailsIn resources := by
  rw [trailsIn_eq]
  simp

/-- Where the names of neighbours are distinct, what is found behind a trail is what is there. -/
theorem find?_eq_some_iff {trail : List String} {r : Resource} {resources : Ordered Resource}
    (htop : (Ordered.names resources).Nodup)
    (h : ∀ t ∈ trailsIn resources, (Ordered.names t.2.resources).Nodup) :
    find? trail resources = some r ↔ (trail, r) ∈ trailsIn resources := by
  induction trail generalizing resources with
  | nil => exact ⟨fun hfind => (by cases hfind), fun hmem => absurd hmem nil_not_mem_trailsIn⟩
  | cons name trail ih =>
    have hget : ∀ q, Ordered.get? resources name = some q ↔ (name, q) ∈ resources := fun q =>
      ⟨Ordered.mem_of_get?, fun hq => Ordered.get?_of_mem htop hq⟩
    rw [cons_mem_trailsIn]
    cases trail with
    | nil => simp [find?, hget, nil_not_mem_trailsIn]
    | cons next trail =>
      have hinner : ∀ q, (name, q) ∈ resources →
          (find? (next :: trail) q.resources = some r ↔
            (next :: trail, r) ∈ trailsIn q.resources) := by
        intro q hq
        apply ih
        · exact h ([name], q) (cons_mem_trailsIn.2 ⟨q, hq, .inl ⟨rfl, rfl⟩⟩)
        · exact fun t ht => h (name :: t.1, t.2) (cons_mem_trailsIn.2 ⟨q, hq, .inr ht⟩)
      rw [find?_cons (List.cons_ne_nil next trail), Option.bind_eq_some_iff]
      refine exists_congr fun q => ?_
      rw [hget]
      refine and_congr_right fun hq => ?_
      simp [hinner q hq]

/-- The methods of a resource, each with the path of its resource. -/
def methodsAt (above : String) (t : List String × Resource) : List (String × Method) :=
  t.2.methods.map fun p => (t.1.foldl pathIn above, p.2)

/-- All methods are those of the resources behind the trails, trail by trail. -/
theorem methodsBelow_eq_flatMap :
    (∀ above r, methodsBelow above r = (trails r).flatMap (methodsAt above)) ∧
      ∀ above resources,
        allMethodsBelow above resources = (trailsIn resources).flatMap (methodsAt above) := by
  apply methodsBelow.mutual_induct
  case case1 =>
    intro above name methods resources ih
    rw [methodsBelow, trails, List.flatMap_cons, ih]
    rfl
  case case2 =>
    intro above
    rfl
  case case3 =>
    intro above name r rest ihfirst ihrest
    rw [allMethodsBelow, trailsIn, List.flatMap_append, List.flatMap_map, ihfirst, ihrest]
    rfl

/-! ## Sites and trails -/

/-- The resource behind the trail was read from the object at the site. -/
structure IsSiteOf (shared : Ordered Parameter) (site : Site) (t : List String × Resource) :
    Prop where
  trail : site.trail = t.1
  declared : Json.objectAt site.members "methods" = .ok site.methods
  methods : Method.allOfJson shared site.methods = .ok t.2.methods
  resources : nested shared site.members = .ok t.2.resources

open Discovery.Tree

variable {shared : Ordered Parameter}

theorem isSiteOf_trails {name : String} {members : Json.Members} {resource : Resource}
    (h : ofJson shared name (.obj members) = .ok resource)
    (hinner : ∀ resources, nested shared members = .ok resources →
      List.Forall₂ (IsSiteOf shared) (sitesBelow members) (trailsIn resources)) :
    List.Forall₂ (IsSiteOf shared) (sites (.obj members)) (trails resource) := by
  obtain ⟨declared, methods, resources, hmethods, hall, hnested, rfl⟩ := ofJson_obj h
  rw [sites, trails]
  refine .cons ⟨rfl, ?_, ?_, hnested⟩ (hinner resources hnested)
  · rw [Site.methods, Site.declared, hmethods]
    rfl
  · rw [Site.methods, Site.declared, hmethods]
    exact hall

theorem isSiteOf_of_isReadAs {declared : Json.Members} {resources : Ordered Resource}
    (h : List.Forall₂ (IsReadAs (ofJson shared)) declared resources)
    (hinner : ∀ p ∈ declared, ∀ resource, ofJson shared p.1 p.2 = .ok resource →
      List.Forall₂ (IsSiteOf shared) (sites p.2) (trails resource)) :
    List.Forall₂ (IsSiteOf shared) (sitesOf declared) (trailsIn resources) := by
  induction h with
  | nil => exact .nil
  | @cons p pair declared resources hpair hrest ih =>
    obtain ⟨name, resource⟩ := pair
    rw [sitesOf, trailsIn]
    refine List.rel_append ?_ (ih fun q hq => hinner q (List.mem_cons_of_mem p hq))
    rw [List.forall₂_map_left_iff, List.forall₂_map_right_iff]
    refine (hinner p List.mem_cons_self resource hpair.value).imp ?_
    intro site t hsite
    exact ⟨congrArg₂ List.cons hpair.name.symm hsite.trail, hsite.declared, hsite.methods,
      hsite.resources⟩

/-- There is one trail for each site, and the resource behind it was read from what is there. -/
theorem isSiteOf_trailsIn {members : Json.Members} {resources : Ordered Resource}
    (h : nested shared members = .ok resources) :
    List.Forall₂ (IsSiteOf shared) (sitesBelow members) (trailsIn resources) := by
  induction isTree_of_nested h generalizing resources with
  | @node members declared hdeclared hobject hinner ih =>
    rw [nested_eq, hdeclared] at h
    rw [sitesBelow_eq hdeclared]
    refine isSiteOf_of_isReadAs (allOfJson_isReadAs h) ?_
    intro p hp resource hread
    obtain ⟨found, hfound⟩ := hobject p hp
    rw [hfound] at hread ⊢
    exact isSiteOf_trails hread fun inner => ih p hp found hfound

theorem nodup_names_of_nested {members : Json.Members} {resources : Ordered Resource}
    (hkeys : (Json.obj members).hasDistinctKeys = true)
    (h : nested shared members = .ok resources) : (Ordered.names resources).Nodup := by
  rw [nested_eq, bind_eq_ok] at h
  obtain ⟨declared, hdeclared, hread⟩ := h
  rw [names_of_isReadAs (allOfJson_isReadAs hread)]
  exact ((Json.hasDistinctKeys_obj _).1 (Json.hasDistinctKeys_objectAt hkeys hdeclared)).1

/-- Names are distinct in the resource, and every method has the name that it stands under. -/
structure IsOrderly (r : Resource) : Prop where
  resources : (Ordered.names r.resources).Nodup
  methods : (Ordered.names r.methods).Nodup
  names : ∀ p ∈ r.methods, p.2.name = p.1

theorem isOrderly_of_isSiteOf {site : Site} {t : List String × Resource}
    (hkeys : (Json.obj site.members).hasDistinctKeys = true) (h : IsSiteOf shared site t) :
    IsOrderly t.2 := by
  have hread := Method.allOfJson_isReadAs h.methods
  refine ⟨nodup_names_of_nested hkeys h.resources, ?_, ?_⟩
  · rw [names_of_isReadAs hread]
    exact ((Json.hasDistinctKeys_obj _).1 (Json.hasDistinctKeys_objectAt hkeys h.declared)).1
  · intro p hp
    obtain ⟨member, -, hmember⟩ := exists_of_mem_right hread hp
    obtain ⟨-, -, -, -, -, -, hname, -⟩ := Method.ofJson_eq_ok hmember.value
    rw [hname, hmember.name]

theorem isOrderly_of_mem_trailsIn {members : Json.Members} {resources : Ordered Resource}
    (hkeys : (Json.obj members).hasDistinctKeys = true)
    (h : nested shared members = .ok resources) :
    ∀ t ∈ trailsIn resources, IsOrderly t.2 := by
  intro t ht
  obtain ⟨site, hsite, hread⟩ := exists_of_mem_right (isSiteOf_trailsIn h) ht
  have hsiteKeys := hasDistinctKeys_of_mem_sitesBelow (isTree_of_nested h) hkeys site hsite
  exact isOrderly_of_isSiteOf hsiteKeys hread

end Resource

/-! ## Trails are distinct -/

namespace Tree

/-- No two sites have the same trail. -/
theorem nodup_trails {members : Json.Members} (h : IsTree members)
    (hkeys : (Json.obj members).hasDistinctKeys = true) :
    ((sitesBelow members).map Site.trail).Nodup := by
  induction h with
  | @node members declared hdeclared hobject hinner ih =>
    have hdistinct := (Json.hasDistinctKeys_obj declared).1
      (Json.hasDistinctKeys_objectAt hkeys hdeclared)
    rw [sitesBelow_eq hdeclared, trails_sitesOf, List.nodup_flatMap]
    constructor
    · intro p hp
      obtain ⟨found, hfound⟩ := hobject p hp
      have hbelow := ih p hp found hfound (hfound ▸ hdistinct.2 p hp)
      have hroot : [] ∉ (sitesBelow found).map Site.trail := by
        intro hmem
        obtain ⟨site, hsite, htrail⟩ := List.mem_map.1 hmem
        exact trail_ne_nil (hinner p hp found hfound) hsite htrail
      have hall : ((sites p.2).map Site.trail).Nodup := by
        rw [hfound, sites, List.map_cons]
        exact List.nodup_cons.2 ⟨hroot, hbelow⟩
      have hcons := hall.map (List.cons_injective (a := p.1))
      rwa [List.map_map] at hcons
    · -- Trails in different resources differ in their first names.
      refine (List.pairwise_map.1 hdistinct.1).imp ?_
      intro p q hne trail hp hq
      obtain ⟨_, -, rfl⟩ := List.mem_map.1 hp
      obtain ⟨_, -, heq⟩ := List.mem_map.1 hq
      exact hne (List.cons.inj heq).1.symm

/-- No resource has an empty name or one with a dot. -/
def HasPlainNames (body : Json.Members) : Prop :=
  ∀ site ∈ sitesBelow body, ∀ name ∈ site.trail, IsPlainName name

instance (body : Json.Members) : Decidable (HasPlainNames body) :=
  inferInstanceAs (Decidable (∀ site ∈ sitesBelow body, ∀ name ∈ site.trail, IsPlainName name))

end Tree

/-! ## What is found -/

namespace Service

/-- What is looked up is what is listed. A method is found by a path and a name if it is listed under
this path and has this name, which is so of one pair at most; a resource is found at the dotted
paths of the tree of resources, and has the methods that are declared there; what is not found is
reported as missing. -/
structure Inverts (s : Service) (body : Json.Members) : Prop where
  method : ∀ path name m, s.method path name = .ok m ↔ (path, m) ∈ s.methods ∧ m.name = name
  once : (s.methods.map fun p => (p.1, p.2.name)).Nodup
  resource : ∀ path, (∃ r, s.resource path = .ok r) ↔
    ∃ site ∈ Tree.sitesBelow body, site.path = path
  read : ∀ path r, s.resource path = .ok r → ∃ site ∈ Tree.sitesBelow body, site.path = path ∧
    Method.allOfJson s.parameters site.methods = .ok r.methods
  noResource : ∀ path fault, s.resource path = .error fault → fault = .noResource s.name path
  noMethod : ∀ path name fault, s.method path name = .error fault →
    (s.resource path = .error fault ∧ fault = .noResource s.name path) ∨
      ((∃ r, s.resource path = .ok r) ∧ fault = .noMethod s.name path name)

theorem resource_eq_ok {s : Service} {path : String} {r : Resource} :
    s.resource path = .ok r ↔ Resource.find? (Text.splitAt '.' path) s.resources = some r := by
  rw [Service.resource]
  cases Resource.find? (Text.splitAt '.' path) s.resources <;> simp

theorem method_eq_ok {s : Service} {path name : String} {m : Method} :
    s.method path name = .ok m ↔
      ∃ r, s.resource path = .ok r ∧ Ordered.get? r.methods name = some m := by
  rw [Service.method, bind_eq_ok]
  refine exists_congr fun r => and_congr_right fun _ => ?_
  cases Ordered.get? r.methods name <;> simp

theorem resource_eq_error {s : Service} {path : String} {fault : Fault}
    (h : s.resource path = .error fault) : fault = .noResource s.name path := by
  rw [Service.resource] at h
  split at h
  · cases h
  · exact (Except.error.inj h).symm

theorem method_eq_error {s : Service} {path name : String} {fault : Fault}
    (h : s.method path name = .error fault) :
    (s.resource path = .error fault ∧ fault = .noResource s.name path) ∨
      ((∃ r, s.resource path = .ok r) ∧ fault = .noMethod s.name path name) := by
  rw [Service.method, bind_eq_error] at h
  rcases h with h | ⟨r, hr, h⟩
  · exact .inl ⟨h, resource_eq_error h⟩
  · refine .inr ⟨⟨r, hr⟩, ?_⟩
    split at h
    · cases h
    · exact (Except.error.inj h).symm

section Read

variable {document : Json} {described : Document} {s : Service}

/-- The resource at a path is behind the trail that the path is joined from. -/
theorem resource_eq_ok_iff {body : Json.Members}
    (hkeys : (Json.obj body).hasDistinctKeys = true)
    (hread : Resource.nested s.parameters body = .ok s.resources)
    (hnames : Tree.HasPlainNames body) (path : String) (r : Resource) :
    s.resource path = .ok r ↔
      ∃ trail, (trail, r) ∈ Resource.trailsIn s.resources ∧
        trail.foldl Resource.pathIn "" = path := by
  have htrails : ∀ t ∈ Resource.trailsIn s.resources,
      t.1 ≠ [] ∧ ∀ name ∈ t.1, IsPlainName name := by
    intro t ht
    obtain ⟨site, hsite, hsiteOf⟩ :=
      exists_of_mem_right (Resource.isSiteOf_trailsIn hread) ht
    rw [← hsiteOf.trail]
    exact ⟨Tree.trail_ne_nil (Tree.isTree_of_nested hread) hsite, hnames site hsite⟩
  rw [resource_eq_ok, Resource.find?_eq_some_iff (Resource.nodup_names_of_nested hkeys hread)
    fun t ht => (Resource.isOrderly_of_mem_trailsIn hkeys hread t ht).resources]
  constructor
  · intro hmem
    exact ⟨_, hmem, path_splitAt fun name hname => ((htrails _ hmem).2 name hname).1⟩
  · rintro ⟨trail, hmem, rfl⟩
    rw [splitAt_path (htrails _ hmem).1 (htrails _ hmem).2]
    exact hmem

theorem mem_methods_iff {path : String} {m : Method} :
    (path, m) ∈ s.methods ↔
      ∃ trail r name, (trail, r) ∈ Resource.trailsIn s.resources ∧
        trail.foldl Resource.pathIn "" = path ∧ (name, m) ∈ r.methods := by
  rw [Service.methods, Resource.methodsBelow_eq_flatMap.2, List.mem_flatMap]
  constructor
  · rintro ⟨⟨trail, r⟩, ht, hm⟩
    obtain ⟨⟨name, found⟩, hfound, heq⟩ := List.mem_map.1 hm
    cases heq
    exact ⟨trail, r, name, ht, rfl, hfound⟩
  · rintro ⟨trail, r, name, ht, rfl, hm⟩
    exact ⟨(trail, r), ht, List.mem_map.2 ⟨(name, m), hm, rfl⟩⟩

/-- Paths with names are listed once, since both are distinct. -/
theorem nodup_methods {body : Json.Members} (hkeys : (Json.obj body).hasDistinctKeys = true)
    (hread : Resource.nested s.parameters body = .ok s.resources)
    (hnames : Tree.HasPlainNames body) : (s.methods.map fun p => (p.1, p.2.name)).Nodup := by
  have htree := Tree.isTree_of_nested hread
  rw [Service.methods, Resource.allMethodsBelow_eq hread, List.nodup_flatMap]
  constructor
  · intro site hsite
    obtain ⟨-, -, hmethods, -⟩ := Resource.find?_of_mem_sitesBelow hkeys hread hsite
    have hdistinct := (Json.hasDistinctKeys_obj _).1 (Json.hasDistinctKeys_objectAt
      (Tree.hasDistinctKeys_of_mem_sitesBelow htree hkeys site hsite) hmethods)
    exact hdistinct.1.map fun a b heq => (Prod.mk.inj heq).2
  · have htrails : (Tree.sitesBelow body).Pairwise fun a b => a.trail ≠ b.trail :=
      List.pairwise_map.1 (Tree.nodup_trails htree hkeys)
    refine htrails.imp_of_mem ?_
    intro a b ha hb hne pair hpa hpb
    obtain ⟨_, -, rfl⟩ := List.mem_map.1 hpa
    obtain ⟨_, -, heq⟩ := List.mem_map.1 hpb
    -- Sites with one path have one trail, as the path is cut into it.
    have hpath : b.path = a.path := (Prod.mk.inj heq).1
    apply hne
    rw [← splitAt_path (Tree.trail_ne_nil htree ha) (hnames a ha),
      ← splitAt_path (Tree.trail_ne_nil htree hb) (hnames b hb)]
    exact congrArg (Text.splitAt '.') hpath.symm

/-- In a service that was read from a document whose resources have names that are neither empty nor
dotted, looking up inverts listing. -/
theorem ofJson_inverts (hkeys : document.hasDistinctKeys = true)
    (hdocument : Document.ofJson document = .ok described) (h : ofJson document = .ok s)
    (hnames : Tree.HasPlainNames described.body) : s.Inverts described.body := by
  obtain ⟨found, -, hfound, -, -, hread, -, -⟩ := ofJson_eq_ok h
  obtain rfl : described = found := Except.ok.inj (hdocument.symm.trans hfound)
  have hbody := Document.hasDistinctKeys_body hkeys hdocument
  have hresource := resource_eq_ok_iff hbody hread hnames
  have hsites := Resource.isSiteOf_trailsIn hread
  constructor
  case method =>
    intro path name m
    rw [method_eq_ok, mem_methods_iff]
    constructor
    · rintro ⟨r, hr, hm⟩
      obtain ⟨trail, ht, hpath⟩ := (hresource path r).1 hr
      have horderly := Resource.isOrderly_of_mem_trailsIn hbody hread _ ht
      have hmem := Ordered.mem_of_get? hm
      exact ⟨⟨trail, r, name, ht, hpath, hmem⟩, horderly.names _ hmem⟩
    · rintro ⟨⟨trail, r, key, ht, hpath, hm⟩, hname⟩
      have horderly := Resource.isOrderly_of_mem_trailsIn hbody hread _ ht
      obtain rfl : name = key := hname.symm.trans (horderly.names _ hm)
      exact ⟨r, (hresource path r).2 ⟨trail, ht, hpath⟩, Ordered.get?_of_mem horderly.methods hm⟩
  case once => exact nodup_methods hbody hread hnames
  case resource =>
    intro path
    simp only [hresource]
    constructor
    · rintro ⟨r, trail, ht, hpath⟩
      obtain ⟨site, hsite, hsiteOf⟩ := exists_of_mem_right hsites ht
      exact ⟨site, hsite, by rw [Site.path, Site.pathFrom, hsiteOf.trail, hpath]⟩
    · rintro ⟨site, hsite, hpath⟩
      obtain ⟨⟨trail, r⟩, ht, hsiteOf⟩ := exists_of_mem_left hsites hsite
      refine ⟨r, trail, ht, ?_⟩
      rw [← hpath, Site.path, Site.pathFrom, hsiteOf.trail]
  case read =>
    intro path r hr
    obtain ⟨trail, ht, hpath⟩ := (hresource path r).1 hr
    obtain ⟨site, hsite, hsiteOf⟩ := exists_of_mem_right hsites ht
    exact ⟨site, hsite, by rw [Site.path, Site.pathFrom, hsiteOf.trail, hpath], hsiteOf.methods⟩
  case noResource => exact fun path fault => resource_eq_error
  case noMethod => exact fun path name fault => method_eq_error

end Read

/-- A document with a resource in a resource, whose methods share a name. -/
def sampleNested : Json :=
  .obj [("name", .str "b"), ("version", .str "v1"), ("baseUrl", .str "https://a/"),
    ("resources", .obj
      [("a", .obj
        [("methods", .obj [("get", .obj [("path", .str "a")])]),
         ("resources", .obj
          [("b", .obj [("methods", .obj
            [("list", .obj [("path", .str "l")]), ("get", .obj [("path", .str "g")])])])])]),
       ("ab", .obj [])])]

theorem ofJson_inverts_sampleNested :
    ∃ described s, sampleNested.hasDistinctKeys = true ∧
      Document.ofJson sampleNested = .ok described ∧ ofJson sampleNested = .ok s ∧
      Tree.HasPlainNames described.body ∧
      s.methods.map (fun p => (p.1, p.2.name)) = [("a", "get"), ("a.b", "list"), ("a.b", "get")] ∧
      s.Inverts described.body := by
  obtain ⟨described, hdescribed, hnames⟩ := exists_ok_of_map
    (show (Document.ofJson sampleNested).toOption.map (fun d => decide (Tree.HasPlainNames d.body)) =
      some true by decide)
  obtain ⟨s, hs, hlisted⟩ := exists_ok_of_map
    (show (ofJson sampleNested).toOption.map (fun s => s.methods.map fun p => (p.1, p.2.name)) =
      some [("a", "get"), ("a.b", "list"), ("a.b", "get")] by decide)
  have hkeys : sampleNested.hasDistinctKeys = true := by decide
  have hplain := of_decide_eq_true hnames
  exact ⟨described, s, hkeys, hdescribed, hs, hplain, hlisted,
    ofJson_inverts hkeys hdescribed hs hplain⟩

end Service

end ApiDiscovery.Discovery
