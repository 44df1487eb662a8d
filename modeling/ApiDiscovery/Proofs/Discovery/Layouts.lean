import ApiDiscovery.Proofs.Discovery.Tree

/-!
# The older layout and the newer one

A document in the older layout has a newer form (`Document.newerForm`): its description with the name
and the version of the service in it, and with the newer spelling of what methods and parameters may
also have under older keys. The two describe the same service (`Service.ofJson_newerForm`), or fail
with the same fault, whatever a description holds: both spellings, values that do not count as
given, and values of the wrong shape.
-/

namespace ApiDiscovery

open Outcome

namespace Json

/-! ## Changes to members -/

/-- An object with its members changed; another value stays. -/
def mapMembers (f : Members → Members) : Json → Json
  | obj members => obj (f members)
  | value => value

/-- The members with each value changed. -/
def mapEach (f : Json → Json) (members : Members) : Members := members.map fun p => (p.1, f p.2)

/-- The members with the values under one key changed. -/
def mapAt (key : String) (f : Json → Json) (members : Members) : Members :=
  members.map fun p => (p.1, if p.1 = key then f p.2 else p.2)

/-- The members with the first value that is given under some keys put under one key. -/
def settle (key : String) (keys : List String) (members : Members) : Members :=
  match firstGiven members keys with
  | some value => Ordered.insert key value members
  | none => members

section Members

variable {key other : String} {keys : List String} {members : Members}

theorem lookup_cons (p : String × Json) (members : Members) (key : String) :
    lookup key (p :: members) = if key = p.1 then some p.2 else lookup key members :=
  Ordered.get?_cons p members key

theorem lookup_insert (key : String) (value : Json) (members : Members) (other : String) :
    lookup other (Ordered.insert key value members) =
      if other = key then some value else lookup other members :=
  Ordered.get?_insert key value members other

theorem lookup_mapEach (f : Json → Json) (key : String) (members : Members) :
    lookup key (mapEach f members) = (lookup key members).map f := by
  induction members with
  | nil => rfl
  | cons p members ih =>
    rw [mapEach, List.map_cons, lookup_cons, lookup_cons]
    split
    · rfl
    · exact ih

theorem keys_mapEach (f : Json → Json) (members : Members) :
    Json.keys (mapEach f members) = Json.keys members := by
  rw [Json.keys, mapEach, List.map_map]
  rfl

theorem lookup_mapAt_self (key : String) (f : Json → Json) (members : Members) :
    lookup key (mapAt key f members) = (lookup key members).map f := by
  induction members with
  | nil => rfl
  | cons p members ih =>
    rw [mapAt, List.map_cons, lookup_cons, lookup_cons]
    by_cases h : key = p.1
    · subst h
      simp
    · rw [if_neg h, if_neg h]
      exact ih

theorem lookup_mapAt_of_ne (h : other ≠ key) (f : Json → Json) (members : Members) :
    lookup other (mapAt key f members) = lookup other members := by
  induction members with
  | nil => rfl
  | cons p members ih =>
    rw [mapAt, List.map_cons, lookup_cons, lookup_cons]
    by_cases hp : other = p.1
    · rw [if_pos hp, if_pos hp, if_neg (hp ▸ h)]
    · rw [if_neg hp, if_neg hp]
      exact ih

theorem lookup_settle_of_ne (h : other ≠ key) (keys : List String) (members : Members) :
    lookup other (settle key keys members) = lookup other members := by
  unfold settle
  split
  · rw [lookup_insert, if_neg h]
  · rfl

theorem isGiven_of_firstGiven {value : Json} (h : firstGiven members keys = some value) :
    value.isGiven = true := by
  induction keys with
  | nil => cases h
  | cons key keys ih =>
    rw [firstGiven] at h
    split at h
    · split at h
      · next hgiven =>
        cases h
        exact hgiven
      · exact ih h
    · exact ih h

theorem firstGiven_congr {a b : Members} (h : ∀ key ∈ keys, lookup key a = lookup key b) :
    firstGiven a keys = firstGiven b keys := by
  induction keys with
  | nil => rfl
  | cons key keys ih =>
    rw [List.forall_mem_cons] at h
    rw [firstGiven, firstGiven, h.1, ih h.2]

theorem firstGiven_nil (keys : List String) : firstGiven [] keys = none := by
  induction keys with
  | nil => rfl
  | cons key keys ih => exact ih

/-- Once a value is put under the first of the keys, it is the first that is given under them. -/
theorem firstGiven_settle (key : String) (keys : List String) (members : Members) :
    firstGiven (settle key (key :: keys) members) (key :: keys) =
      firstGiven members (key :: keys) := by
  unfold settle
  split
  · next value hvalue =>
    rw [hvalue, firstGiven, lookup_insert, if_pos rfl]
    exact if_pos (isGiven_of_firstGiven hvalue)
  · rfl

/-- A member that is put under a key was given under another, so the members were not empty. -/
theorem isEmpty_settle (key : String) (keys : List String) (members : Members) :
    (settle key keys members).isEmpty = members.isEmpty := by
  unfold settle
  split
  · next value hvalue =>
    cases members with
    | nil =>
      rw [firstGiven_nil] at hvalue
      cases hvalue
    | cons p members =>
      rw [Ordered.insert_cons]
      split
      · rfl
      · rfl
  · rfl

theorem getOr_congr {a b : Members} (h : lookup key a = lookup key b) (default : Json) :
    getOr a key default = getOr b key default := by
  rw [getOr, getOr, h]

theorem objectAt_congr {a b : Members} (h : lookup key a = lookup key b) :
    objectAt a key = objectAt b key := by
  rw [objectAt, objectAt, getOr_congr h]

/-- The object under a key whose members were changed has the changed members. -/
theorem objectAt_of_mapMembers {f : Members → Members} (hf : f [] = []) {a b : Members}
    (h : lookup key a = (lookup key b).map (mapMembers f)) :
    objectAt a key = (objectAt b key).map f := by
  rw [objectAt, objectAt, getOr, getOr, h]
  cases lookup key b with
  | none => exact congrArg Except.ok hf.symm
  | some value => cases value <;> rfl

end Members
end Json

namespace Discovery

open Json (Members lookup getOr objectAt isGivenAt firstGiven mapMembers mapEach mapAt settle)

variable {α : Type}

/-- A reader that goes from member to member reads the same from values that it reads alike. -/
theorem readAll_mapEach {read : String → Json → Except Fault α}
    {readAll : Members → Except Fault (Ordered α)}
    (hcons : ∀ name value rest, readAll ((name, value) :: rest) = (do
      let first ← read name value
      let others ← readAll rest
      return (name, first) :: others))
    {f : Json → Json} (hf : ∀ name value, read name (f value) = read name value)
    (members : Members) : readAll (mapEach f members) = readAll members := by
  induction members with
  | nil => rfl
  | cons p members ih =>
    rw [mapEach, List.map_cons, hcons, hf, hcons]
    rw [mapEach] at ih
    rw [ih]

/-! ## Parameters -/

namespace Parameter

/-- The members of a parameter with the newer key for its location. -/
def newerMembers (members : Members) : Members :=
  settle "location" ["location", "parameterType"] members

/-- A parameter with the newer key for its location. -/
def newer : Json → Json := mapMembers newerMembers

theorem lookup_newerMembers {key : String} (h : key ≠ "location") (members : Members) :
    lookup key (newerMembers members) = lookup key members :=
  Json.lookup_settle_of_ne h _ members

theorem getOr_newerMembers {key : String} (h : key ≠ "location") (members : Members)
    (default : Json) : getOr (newerMembers members) key default = getOr members key default :=
  Json.getOr_congr (lookup_newerMembers h members) default

theorem firstGiven_newerMembers (members : Members) :
    firstGiven (newerMembers members) ["location", "parameterType"] =
      firstGiven members ["location", "parameterType"] :=
  Json.firstGiven_settle "location" ["parameterType"] members

theorem ofJson_newer (name : String) (declared : Json) :
    ofJson name (newer declared) = ofJson name declared := by
  cases declared with
  | obj members =>
    have hlocation : locationOf name (newerMembers members) = locationOf name members := by
      rw [locationOf, locationOf, firstGiven_newerMembers]
    have hpattern : patternOf name (newerMembers members) = patternOf name members := by
      rw [patternOf, patternOf, getOr_newerMembers (by decide)]
    have hchoices : choicesOf (newerMembers members) = choicesOf members := by
      rw [choicesOf, choicesOf, getOr_newerMembers (by decide)]
    -- All that is left is read under keys other than the location.
    simp (disch := decide) only [ofJson, newer, mapMembers, Json.asObject, ok_bind, hlocation,
      hpattern, hchoices, isGivenAt, getOr_newerMembers]
  | _ => rfl

theorem allOfJson_newer (members : Members) :
    allOfJson (mapEach newer members) = allOfJson members :=
  readAll_mapEach (fun _ _ _ => rfl) ofJson_newer members

end Parameter

/-! ## Methods -/

namespace Method

/-- The members of a method with the newer keys for its path and its identifier, and with its
parameters in the newer form. -/
def newerMembers (members : Members) : Members :=
  settle "id" ["id", "rpcName"] (settle "path" ["path", "restPath", "pathUrl"]
    (mapAt "parameters" (mapMembers (mapEach Parameter.newer)) members))

/-- A method with the newer keys and parameters. -/
def newer : Json → Json := mapMembers newerMembers

section Members

variable (members : Members)

theorem lookup_newerMembers {key : String} (hid : key ≠ "id") (hpath : key ≠ "path") :
    lookup key (newerMembers members) =
      lookup key (mapAt "parameters" (mapMembers (mapEach Parameter.newer)) members) := by
  rw [newerMembers, Json.lookup_settle_of_ne hid, Json.lookup_settle_of_ne hpath]

/-- A key that no part of the newer form is about has its old value. -/
theorem lookup_newerMembers_of_ne {key : String} (h : key ∉ ["id", "path", "parameters"]) :
    lookup key (newerMembers members) = lookup key members := by
  simp only [List.mem_cons, List.not_mem_nil, or_false, not_or] at h
  rw [lookup_newerMembers members h.1 h.2.1, Json.lookup_mapAt_of_ne h.2.2]

theorem getOr_newerMembers_of_ne {key : String} (h : key ∉ ["id", "path", "parameters"])
    (default : Json) : getOr (newerMembers members) key default = getOr members key default :=
  Json.getOr_congr (lookup_newerMembers_of_ne members h) default

theorem lookup_parameters :
    lookup "parameters" (newerMembers members) =
      (lookup "parameters" members).map (mapMembers (mapEach Parameter.newer)) := by
  rw [lookup_newerMembers members (by decide) (by decide), Json.lookup_mapAt_self]

theorem objectAt_parameters :
    objectAt (newerMembers members) "parameters" =
      (objectAt members "parameters").map (mapEach Parameter.newer) :=
  Json.objectAt_of_mapMembers rfl (lookup_parameters members)

theorem pathOf?_newerMembers : pathOf? (newerMembers members) = pathOf? members := by
  -- The identifier is put under another key after the path is, and the parameters before.
  have hid : ∀ key ∈ ["path", "restPath", "pathUrl"], key ≠ "id" := by decide
  have hparameters : ∀ key ∈ ["path", "restPath", "pathUrl"], key ≠ "parameters" := by decide
  rw [pathOf?, pathOf?, newerMembers,
    Json.firstGiven_congr fun key hkey => Json.lookup_settle_of_ne (hid key hkey) _ _,
    Json.firstGiven_settle,
    Json.firstGiven_congr fun key hkey => Json.lookup_mapAt_of_ne (hparameters key hkey) _ _]

theorem idOf?_newerMembers : idOf? (newerMembers members) = idOf? members := by
  have hpath : ∀ key ∈ ["id", "rpcName"], key ≠ "path" := by decide
  have hparameters : ∀ key ∈ ["id", "rpcName"], key ≠ "parameters" := by decide
  rw [idOf?, idOf?, newerMembers, Json.firstGiven_settle,
    Json.firstGiven_congr fun key hkey => Json.lookup_settle_of_ne (hpath key hkey) _ _,
    Json.firstGiven_congr fun key hkey => Json.lookup_mapAt_of_ne (hparameters key hkey) _ _]

theorem verbOf_newerMembers : verbOf (newerMembers members) = verbOf members := by
  rw [verbOf, verbOf, getOr_newerMembers_of_ne members (by decide)]

end Members

theorem ofJson_newer (shared : Ordered Parameter) (name : String) (declared : Json) :
    ofJson shared name (newer declared) = ofJson shared name declared := by
  cases declared with
  | obj members =>
    simp (disch := decide) only [ofJson, newer, mapMembers, Json.asObject, ok_bind,
      pathOf?_newerMembers, idOf?_newerMembers, verbOf_newerMembers, objectAt_parameters,
      lookup_newerMembers_of_ne, getOr_newerMembers_of_ne]
    cases pathOf? members with
    | none => rfl
    | some path =>
      cases objectAt members "parameters" with
      | error fault => rfl
      | ok own => simp only [Except.map, ok_bind, Parameter.allOfJson_newer]
  | _ => rfl

theorem allOfJson_newer (shared : Ordered Parameter) (members : Members) :
    allOfJson shared (mapEach newer members) = allOfJson shared members :=
  readAll_mapEach (fun _ _ _ => rfl) (ofJson_newer shared) members

end Method

/-! ## Resources -/

namespace Resource

mutual

/-- A resource with its methods, and those of the resources in it, in the newer form. -/
def newer : Json → Json
  | .obj members => .obj (newerMembers members)
  | value => value

/-- The members of a resource with all methods in them in the newer form. -/
def newerMembers : List (String × Json) → List (String × Json)
  | [] => []
  | (key, value) :: rest =>
    if key = "resources" then
      match value with
      | .obj declared => (key, .obj (newerAll declared)) :: newerMembers rest
      | value => (key, value) :: newerMembers rest
    else if key = "methods" then
      (key, mapMembers (mapEach Method.newer) value) :: newerMembers rest
    else (key, value) :: newerMembers rest

/-- The resources of an object with all methods in them in the newer form. -/
def newerAll : List (String × Json) → List (String × Json)
  | [] => []
  | (name, resource) :: rest => (name, newer resource) :: newerAll rest

end

theorem newerMembers_cons (key : String) (value : Json) (rest : Members) :
    newerMembers ((key, value) :: rest) =
      (key, if key = "resources" then mapMembers newerAll value
        else if key = "methods" then mapMembers (mapEach Method.newer) value
        else value) :: newerMembers rest := by
  by_cases hresources : key = "resources"
  · cases value <;> simp only [newerMembers, if_pos hresources, mapMembers]
  · by_cases hmethods : key = "methods"
    · cases value <;> simp only [newerMembers, if_neg hresources, if_pos hmethods]
    · cases value <;> simp only [newerMembers, if_neg hresources, if_neg hmethods]

theorem lookup_newerMembers (key : String) (members : Members) :
    lookup key (newerMembers members) =
      (lookup key members).map fun value =>
        if key = "resources" then mapMembers newerAll value
        else if key = "methods" then mapMembers (mapEach Method.newer) value
        else value := by
  induction members with
  | nil => rfl
  | cons p members ih =>
    rw [newerMembers_cons, Json.lookup_cons, Json.lookup_cons]
    by_cases h : key = p.1
    · subst h
      simp
    · rw [if_neg h, if_neg h]
      exact ih

theorem lookup_newerMembers_of_ne {key : String} (hresources : key ≠ "resources")
    (hmethods : key ≠ "methods") (members : Members) :
    lookup key (newerMembers members) = lookup key members := by
  rw [lookup_newerMembers]
  simp only [if_neg hresources, if_neg hmethods, Option.map_id']

theorem objectAt_resources (members : Members) :
    objectAt (newerMembers members) "resources" =
      (objectAt members "resources").map newerAll := by
  refine Json.objectAt_of_mapMembers (by simp [newerAll]) ?_
  rw [lookup_newerMembers]
  simp

theorem objectAt_methods (members : Members) :
    objectAt (newerMembers members) "methods" =
      (objectAt members "methods").map (mapEach Method.newer) := by
  refine Json.objectAt_of_mapMembers rfl ?_
  rw [lookup_newerMembers]
  simp

theorem keys_newerAll (members : Members) : Json.keys (newerAll members) = Json.keys members := by
  induction members with
  | nil => rfl
  | cons p members ih =>
    rw [newerAll]
    exact congrArg (p.1 :: ·) ih

/-- Resources in the newer form are read as the same. The three parts follow the three readers. -/
theorem read_newer (shared : Ordered Parameter) :
    (∀ name value, ofJson shared name (newer value) = ofJson shared name value) ∧
      (∀ members, nested shared (newerMembers members) = nested shared members) ∧
      (∀ members, allOfJson shared (newerAll members) = allOfJson shared members) := by
  apply ofJson.mutual_induct
  case case1 =>
    intro name members ih
    rw [newer, ofJson, ofJson, objectAt_methods, ih]
    cases objectAt members "methods" with
    | error fault => rfl
    | ok declared => simp only [Except.map, ok_bind, Method.allOfJson_newer]
  case case2 =>
    intro value name hvalue
    cases value with
    | obj members => exact absurd rfl (hvalue members)
    | _ => rfl
  case case3 => rfl
  -- The first member may be the one with the resources, an object or not, or another one.
  case case4 =>
    intro rest declared ih
    rw [newerMembers_cons, if_pos rfl, mapMembers, nested, nested, if_pos rfl, if_pos rfl]
    exact ih
  case case5 =>
    intro value rest hvalue
    rw [newerMembers_cons, if_pos rfl]
    cases value with
    | obj members => exact absurd rfl (hvalue members)
    | _ => rfl
  case case6 =>
    intro key value rest hkey ih
    rw [newerMembers_cons, if_neg hkey, Tree.nested_eq, Tree.nested_eq, Tree.objectAt_cons,
      Tree.objectAt_cons, if_neg hkey, if_neg hkey, ← Tree.nested_eq, ← Tree.nested_eq, ih]
  case case7 => rfl
  case case8 =>
    intro name value rest ihvalue ihrest
    rw [newerAll, allOfJson, allOfJson, ihvalue, ihrest]

end Resource

/-! ## The walk through the resources -/

namespace Tree

/-- The walk comes to the same resources, in the newer form. -/
theorem visit_newer :
    (∀ path value, visit path (Resource.newer value) =
        (visit path value).map (List.map fun r => (r.1, Resource.newerMembers r.2))) ∧
      (∀ path members, visitNested path (Resource.newerMembers members) =
        (visitNested path members).map (List.map fun r => (r.1, Resource.newerMembers r.2))) ∧
      (∀ path members, visitAll path (Resource.newerAll members) =
        (visitAll path members).map (List.map fun r => (r.1, Resource.newerMembers r.2))) := by
  apply visit.mutual_induct
  case case1 =>
    intro path members ih
    rw [Resource.newer, visit, visit, ih]
    cases visitNested path members with
    | error fault => rfl
    | ok inner => rfl
  case case2 =>
    intro value path hvalue
    cases value with
    | obj members => exact absurd rfl (hvalue members)
    | _ => rfl
  case case3 =>
    intro path
    rfl
  -- The first member may be the one with the resources, an object or not, or another one.
  case case4 =>
    intro path rest resources ih
    rw [Resource.newerMembers_cons, if_pos rfl, mapMembers, visitNested, visitNested, if_pos rfl,
      if_pos rfl]
    exact ih
  case case5 =>
    intro path value rest hvalue
    rw [Resource.newerMembers_cons, if_pos rfl]
    cases value with
    | obj members => exact absurd rfl (hvalue members)
    | _ => rfl
  case case6 =>
    intro path key value rest hkey ih
    rw [Resource.newerMembers_cons, if_neg hkey, visitNested_eq, visitNested_eq, objectAt_cons,
      objectAt_cons, if_neg hkey, if_neg hkey, ← visitNested_eq, ← visitNested_eq, ih]
  case case7 =>
    intro path
    rfl
  case case8 =>
    intro path name value rest ihvalue ihrest
    rw [Resource.newerAll, visitAll, visitAll, ihvalue, ihrest]
    cases visit (Resource.pathIn path name) value with
    | error fault => rfl
    | ok visited =>
      cases visitAll path rest with
      | error fault => rfl
      | ok others => simp [Except.map, ok_bind]

end Tree

/-! ## Documents -/

namespace Document

/-- The description in the newer form: with the name and the version of the service in it, and with
all methods and parameters in the newer form. -/
def newerMembers (d : Document) : Members :=
  Ordered.insert "version" (.str d.version) (Ordered.insert "name" (.str d.name)
    (mapAt "parameters" (mapMembers (mapEach Parameter.newer)) (Resource.newerMembers d.body)))

/-- The document in the newer form. -/
def newerForm (d : Document) : Json := .obj d.newerMembers

section Members

variable (d : Document)

theorem lookup_newerMembers {key : String} (hversion : key ≠ "version") (hname : key ≠ "name") :
    lookup key d.newerMembers =
      lookup key (mapAt "parameters" (mapMembers (mapEach Parameter.newer))
        (Resource.newerMembers d.body)) := by
  rw [newerMembers, Json.lookup_insert, if_neg hversion, Json.lookup_insert, if_neg hname]

/-- A key that no part of the newer form is about has its old value. -/
theorem lookup_newerMembers_of_ne {key : String}
    (h : key ∉ ["version", "name", "parameters", "resources", "methods"]) :
    lookup key d.newerMembers = lookup key d.body := by
  simp only [List.mem_cons, List.not_mem_nil, or_false, not_or] at h
  obtain ⟨hversion, hname, hparameters, hresources, hmethods⟩ := h
  rw [lookup_newerMembers d hversion hname, Json.lookup_mapAt_of_ne hparameters,
    Resource.lookup_newerMembers_of_ne hresources hmethods]

theorem getOr_newerMembers_of_ne {key : String}
    (h : key ∉ ["version", "name", "parameters", "resources", "methods"]) (default : Json) :
    getOr d.newerMembers key default = getOr d.body key default :=
  Json.getOr_congr (lookup_newerMembers_of_ne d h) default

theorem objectAt_parameters :
    objectAt d.newerMembers "parameters" =
      (objectAt d.body "parameters").map (mapEach Parameter.newer) := by
  refine Json.objectAt_of_mapMembers rfl ?_
  rw [lookup_newerMembers d (by decide) (by decide), Json.lookup_mapAt_self,
    Resource.lookup_newerMembers_of_ne (by decide) (by decide)]

theorem objectAt_resources :
    objectAt d.newerMembers "resources" = objectAt (Resource.newerMembers d.body) "resources" := by
  refine Json.objectAt_congr ?_
  rw [lookup_newerMembers d (by decide) (by decide), Json.lookup_mapAt_of_ne (by decide)]

/-- The newer form is a document in the newer layout for the same service and version. -/
theorem ofJson_newerForm : ofJson d.newerForm = .ok ⟨d.name, d.version, d.newerMembers⟩ := by
  have hname : lookup "name" d.newerMembers = some (.str d.name) := by
    rw [newerMembers, Json.lookup_insert, if_neg (by decide), Json.lookup_insert, if_pos rfl]
  have hversion : lookup "version" d.newerMembers = some (.str d.version) := by
    rw [newerMembers, Json.lookup_insert, if_pos rfl]
  have hnewer : newer? d.newerMembers = some ⟨d.name, d.version, d.newerMembers⟩ := by
    rw [newer?, hname, hversion]
    rfl
  rw [newerForm, ofJson, hnewer]

end Members
end Document

namespace Service

/-- What a service is read from, once it is known what the document describes. -/
theorem ofJson_eq {value : Json} {d : Document} (h : Document.ofJson value = .ok d) :
    ofJson value = (do
      let baseUri ← baseUriOf d
      let shared ← Parameter.allOfJson (← objectAt d.body "parameters")
      let resources ← Resource.nested shared d.body
      return {
        name := d.name
        version := d.version
        baseUri := baseUri
        resources := resources
        parameters := shared
        title := getOr d.body "title" (.str "")
        description := getOr d.body "description" (.str "") }) := by
  rw [ofJson, h, ok_bind]

/-- A document and its newer form describe the same service, or fail with the same fault. -/
theorem ofJson_newerForm {document : Json} {d : Document}
    (h : Document.ofJson document = .ok d) : ofJson d.newerForm = ofJson document := by
  have hbase : baseUriOf ⟨d.name, d.version, d.newerMembers⟩ = baseUriOf d := by
    simp (disch := decide) only [baseUriOf, Document.lookup_newerMembers_of_ne,
      Document.getOr_newerMembers_of_ne]
  have hresources (shared : Ordered Parameter) :
      Resource.nested shared d.newerMembers = Resource.nested shared d.body := by
    rw [Tree.nested_eq, Document.objectAt_resources, ← Tree.nested_eq]
    exact (Resource.read_newer shared).2.1 d.body
  rw [ofJson_eq h, ofJson_eq (Document.ofJson_newerForm d), hbase]
  simp (disch := decide) only [Document.objectAt_parameters, hresources,
    Document.getOr_newerMembers_of_ne]
  cases baseUriOf d with
  | error fault => rfl
  | ok baseUri =>
    cases objectAt d.body "parameters" with
    | error fault => rfl
    | ok shared => simp only [Except.map, ok_bind, Parameter.allOfJson_newer]

end Service
end Discovery
end ApiDiscovery
