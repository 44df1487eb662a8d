import ApiDiscovery.Proofs.Discovery.Tree

/-!
# Documents whose values have the shapes that are needed

A document is untyped, and reading the service it describes asks for objects, collections and texts
at some places. `Service.IsReadable` says what has to stand at these places, without regard to the
order in which they are read. On a readable document reading ends with a service or with a fault
that says what is wrong with the description, and on any other value it gives no service
(`Service.tells_ofJson`).
-/

namespace ApiDiscovery.Json

/-- Under the key stands an object, or nothing, and the condition holds of the value of each of its
members. -/
def EachAt (members : Members) (key : String) (c : Json → Prop) : Prop :=
  ∃ declared, objectAt members key = .ok declared ∧ ∀ p ∈ declared, c p.2

/-- The value is a collection. -/
def IsCollection (value : Json) : Prop := ∃ items, value.elements = .ok items

/-- The value is a text. -/
def IsString (value : Json) : Prop := ∃ s, value.asText = .ok s

end ApiDiscovery.Json

namespace ApiDiscovery.Discovery

open Outcome

/-! ## Faults -/

/-- The fault is a statement about what a document describes. -/
def Fault.isDescriptive : Fault → Bool
  | unknownLocation _ _ => true
  | badPattern _ _ _ => true
  | noPath _ => true
  | noBaseUrl _ => true
  | notAnObject => true
  | noNameAndVersion => true
  | noResource _ _ => true
  | noMethod _ _ _ => true
  | unknownReference _ => true
  | notJson _ _ => true
  | _ => false

/-- The expected faults are all statements about what a document describes, and the limits of
patterns but for those that escape. -/
structure Fault.AreExpected (escapes : Pattern.Fault → Bool) (E : Fault → Prop) : Prop where
  descriptive : ∀ fault, fault.isDescriptive = true → E fault
  limit : ∀ fault : Pattern.Fault, fault.isLimit = true → escapes fault = false →
    E (.patternLimit fault)

variable {escapes : Pattern.Fault → Bool} {E : Fault → Prop}

/-! ## Parameters -/

namespace Parameter

/-- The pattern is a text that goes beyond no limit that escapes, or null. -/
def HasPattern (escapes : Pattern.Fault → Bool) (members : Json.Members) : Prop :=
  Json.getOr members "pattern" .null = .null ∨
    ∃ pattern, Json.getOr members "pattern" .null = .str pattern ∧
      ∀ fault, Pattern.ofText pattern = .error fault → escapes fault = false

/-- The values that the parameter is restricted to are a collection, if they are given. -/
def HasChoices (members : Json.Members) : Prop :=
  Json.isGivenAt members "enum" = true → (Json.getOr members "enum" .null).IsCollection

/-- The value is an object that can be read as a parameter. -/
def IsReadable (escapes : Pattern.Fault → Bool) (declared : Json) : Prop :=
  ∃ members, declared.asObject = .ok members ∧ HasPattern escapes members ∧ HasChoices members

theorem expected_locationOf (hE : Fault.AreExpected escapes E) (name : String)
    (members : Json.Members) : ∀ fault, locationOf name members = .error fault → E fault := by
  intro fault h
  rw [locationOf] at h
  split at h
  · cases h
  · cases h
    exact hE.descriptive _ rfl

theorem tells_patternOf (hE : Fault.AreExpected escapes E) (name : String)
    (members : Json.Members) :
    Tells E (HasPattern escapes members) (patternOf name members) := by
  unfold patternOf
  split
  · next hnull => exact .ok (.inl hnull) _
  · next pattern htext =>
    cases hpattern : Pattern.ofText pattern with
    | ok found =>
      refine .ok (.inr ⟨pattern, htext, fun fault hfault => ?_⟩) _
      rw [hpattern] at hfault
      cases hfault
    | error fault =>
      dsimp only
      split
      · -- A limit is expected unless it is one of those that the shape rules out.
        next hlimit =>
        refine .failed fun hshape => ?_
        rcases hshape with hnull | ⟨other, hother, hfits⟩
        · rw [htext] at hnull
          cases hnull
        · rw [htext] at hother
          cases hother
          exact hE.limit fault hlimit (hfits fault hpattern)
      · exact .error (hE.descriptive _ rfl)
  · next hnull htext =>
    refine .refused ?_ _
    rintro (h | ⟨pattern, h, -⟩)
    · exact hnull h
    · exact htext pattern h

theorem tells_choicesOf (members : Json.Members) :
    Tells E (HasChoices members) (choicesOf members) :=
  ((Tells.self (Json.getOr members "enum" .null).elements).map _).ite none

theorem tells_ofJson (hE : Fault.AreExpected escapes E) (name : String) (declared : Json) :
    Tells E (IsReadable escapes declared) (ofJson name declared) := by
  refine .bind_exists fun members _ => ?_
  refine .bind_expected (expected_locationOf hE name members) fun location _ => ?_
  refine (tells_patternOf hE name members).bind fun pattern _ => ?_
  exact (tells_choicesOf members).map _

theorem tells_allOfJson (hE : Fault.AreExpected escapes E) (members : Json.Members) :
    Tells E (∀ p ∈ members, IsReadable escapes p.2) (allOfJson members) :=
  .all allOfJson (fun p parameter others => (p.1, parameter) :: others) rfl (fun _ _ => rfl)
    members fun p _ => tells_ofJson hE p.1 p.2

end Parameter

/-! ## Methods -/

namespace Method

/-- The value is an object that can be read as a method. -/
def IsReadable (escapes : Pattern.Fault → Bool) (declared : Json) : Prop :=
  ∃ members, declared.asObject = .ok members ∧
    Json.EachAt members "parameters" (Parameter.IsReadable escapes) ∧
    (Json.getOr members "parameterOrder" (.arr [])).IsCollection

theorem tells_ofJson (hE : Fault.AreExpected escapes E) (shared : Ordered Parameter) (name : String)
    (declared : Json) : Tells E (IsReadable escapes declared) (ofJson shared name declared) := by
  refine .bind_exists fun members _ => ?_
  split
  · exact .error (hE.descriptive _ rfl)
  · next path hpath =>
    refine .bind_both fun own _ => ?_
    refine (Parameter.tells_allOfJson hE own).bind fun parameters _ => ?_
    exact (Tells.self _).map _

theorem tells_allOfJson (hE : Fault.AreExpected escapes E) (shared : Ordered Parameter)
    (members : Json.Members) :
    Tells E (∀ p ∈ members, IsReadable escapes p.2) (allOfJson shared members) :=
  .all (allOfJson shared) (fun p method others => (p.1, method) :: others) rfl (fun _ _ => rfl)
    members fun p _ => tells_ofJson hE shared p.1 p.2

end Method

/-! ## Resources -/

namespace Tree

/-- The resources in an object are a tree, and the condition holds at every site. -/
structure Everywhere (c : Json.Members → Prop) (members : Json.Members) : Prop where
  tree : IsTree members
  sites : ∀ site ∈ sitesBelow members, c site.members

/-- The value is an object where the condition holds, and so are all resources in it. -/
def IsResource (c : Json.Members → Prop) (value : Json) : Prop :=
  ∃ members, value = .obj members ∧ c members ∧ Everywhere c members

theorem isResource_obj {c : Json.Members → Prop} {members : Json.Members} :
    IsResource c (.obj members) ↔ c members ∧ Everywhere c members := by
  constructor
  · rintro ⟨found, hfound, h⟩
    cases hfound
    exact h
  · exact fun h => ⟨members, rfl, h⟩

/-- The condition holds everywhere in a tree exactly if it does in each of the resources at its
root. -/
theorem everywhere_iff {c : Json.Members → Prop} {members : Json.Members} :
    Everywhere c members ↔ Json.EachAt members "resources" (IsResource c) := by
  constructor
  · rintro ⟨htree, hsites⟩
    cases htree with
    | @node _ declared hdeclared hobject hinner =>
      refine ⟨declared, hdeclared, fun p hp => ?_⟩
      obtain ⟨inner, hvalue⟩ := hobject p hp
      have hwithin : ∀ site ∈ sites p.2, c site.members := by
        intro site hsite
        refine hsites (site.below p.1) ?_
        rw [sitesBelow_eq hdeclared]
        exact mem_sitesOf.2 ⟨p, hp, site, hsite, rfl⟩
      rw [hvalue] at hwithin
      -- The first site of a resource is the resource itself.
      refine ⟨inner, hvalue, hwithin _ (mem_sites.2 (.inl rfl)), hinner p hp inner hvalue, ?_⟩
      exact fun site hsite => hwithin site (mem_sites.2 (.inr hsite))
  · rintro ⟨declared, hdeclared, hall⟩
    have hobject : ∀ p ∈ declared, ∃ inner, p.2 = .obj inner := by
      intro p hp
      obtain ⟨inner, hvalue, -⟩ := hall p hp
      exact ⟨inner, hvalue⟩
    refine ⟨.node hdeclared hobject fun p hp inner hvalue => ?_, fun site hsite => ?_⟩
    · obtain ⟨found, hfound, -, htree⟩ := hall p hp
      rw [hvalue] at hfound
      cases hfound
      exact htree.tree
    · obtain ⟨p, hp, found, hfound, inner, hinner, rfl⟩ :=
        exists_of_mem_sitesBelow hdeclared hobject hsite
      obtain ⟨members, hvalue, hroot, hbelow⟩ := hall p hp
      rw [hfound] at hvalue
      cases hvalue
      rcases mem_sites.1 hinner with rfl | hinner
      · exact hroot
      · exact hbelow.sites inner hinner

end Tree

namespace Resource

open Discovery.Tree

/-- Under the key for methods stands an object of methods that can be read, or nothing. -/
def HasMethods (escapes : Pattern.Fault → Bool) (members : Json.Members) : Prop :=
  Json.EachAt members "methods" (Method.IsReadable escapes)

/-- Reading resources tells whether their methods can be read at every site. The three parts follow
the three readers. -/
theorem tells_read (hE : Fault.AreExpected escapes E) (shared : Ordered Parameter) :
    (∀ name value, Tells E (IsResource (HasMethods escapes) value) (ofJson shared name value)) ∧
      (∀ members, Tells E (Json.EachAt members "resources" (IsResource (HasMethods escapes)))
        (nested shared members)) ∧
      (∀ declared, Tells E (∀ p ∈ declared, IsResource (HasMethods escapes) p.2)
        (allOfJson shared declared)) := by
  apply Resource.ofJson.mutual_induct
  case case1 =>
    intro name members ih
    rw [ofJson, isResource_obj, everywhere_iff]
    refine .bind_both fun declared _ => ?_
    exact (Method.tells_allOfJson hE shared declared).bind fun methods _ => ih.map _
  case case2 =>
    intro value name hvalue
    rw [ofJson]
    · refine .refused ?_ _
      rintro ⟨members, rfl, -⟩
      exact hvalue members rfl
    · exact hvalue
  case case3 => exact .ok ⟨[], rfl, fun p hp => absurd hp List.not_mem_nil⟩ _
  case case4 =>
    -- The first member with the key decides, as it does in a lookup.
    intro rest declared ih
    rw [nested_eq, Json.EachAt, objectAt_cons, if_pos rfl]
    exact .bind_exists fun own hown => (Except.ok.inj hown) ▸ ih
  case case5 =>
    intro value rest hvalue
    rw [nested_eq, Json.EachAt, objectAt_cons, if_pos rfl]
    cases value with
    | obj members => exact absurd rfl (hvalue members)
    | _ => exact .refused (fun h => by obtain ⟨own, hown, -⟩ := h; cases hown) _
  case case6 =>
    -- Any other member is passed over.
    intro key value rest hkey ih
    rw [nested_eq, Json.EachAt, objectAt_cons, if_neg hkey, ← nested_eq]
    exact ih
  case case7 => exact .ok (fun p hp => absurd hp List.not_mem_nil) _
  case case8 =>
    intro name value rest ihfirst ihrest
    rw [allOfJson]
    have hboth := ihfirst.bind fun first _ => ihrest.map ((name, first) :: ·)
    refine hboth.congr ?_
    rw [List.forall_mem_cons]

theorem tells_nested (hE : Fault.AreExpected escapes E) (shared : Ordered Parameter)
    (members : Json.Members) :
    Tells E (Everywhere (HasMethods escapes) members) (nested shared members) :=
  ((tells_read hE shared).2.1 members).congr everywhere_iff.symm

end Resource

/-! ## Services -/

theorem Document.isDescriptive_ofJson {value : Json} {fault : Fault}
    (h : ofJson value = .error fault) : fault.isDescriptive = true := by
  unfold ofJson at h
  split at h
  · split at h
    · cases h
    · split at h
      · cases h
      · cases h
        rfl
  · cases h
    rfl

namespace Service

/-- The two values can be joined: texts and arrays can, and so can numbers and truth values, unless
their sum is a double and one of them an integer beyond the doubles. -/
inductive CanBeJoined : Json → Json → Prop where
  | texts (a b : String) : CanBeJoined (.str a) (.str b)
  | arrays (xs ys : List Json) : CanBeJoined (.arr xs) (.arr ys)
  | numbers {a b total : Json} (hsum : Json.sum? a b = some total)
      (hfits : ∀ x, total = .double x → a.isBeyondDoubles = false ∧ b.isBeyondDoubles = false) :
      CanBeJoined a b

/-- The address of the service can be put together, if it is given in two parts. -/
def HasBase (body : Json.Members) : Prop :=
  ∀ root, Json.lookup "rootUrl" body = some root →
    CanBeJoined root (Json.getOr body "servicePath" (.str ""))

/-- The values of a description have the shapes that are needed to read the service. -/
structure IsReadable (escapes : Pattern.Fault → Bool) (body : Json.Members) : Prop where
  base : HasBase body
  parameters : Json.EachAt body "parameters" (Parameter.IsReadable escapes)
  methods : Tree.Everywhere (Resource.HasMethods escapes) body

theorem tells_joined (root path : Json) : Tells E (CanBeJoined root path) (joined root path) := by
  unfold joined
  split
  · exact .ok (.texts _ _) _
  · exact .ok (.arrays _ _) _
  · next htexts harrays =>
    -- Only the sum of numbers is left.
    have hnumbers : CanBeJoined root path → ∃ total, Json.sum? root path = some total ∧
        ∀ x, total = .double x → root.isBeyondDoubles = false ∧ path.isBeyondDoubles = false := by
      intro h
      cases h with
      | texts a b => exact absurd rfl (htexts a b rfl)
      | arrays xs ys => exact absurd rfl (harrays xs ys rfl)
      | numbers hsum hfits => exact ⟨_, hsum, hfits⟩
    split
    · next x hsum =>
      split
      · next hbeyond =>
        refine .refused (fun h => ?_) _
        obtain ⟨total, htotal, hfits⟩ := hnumbers h
        rw [hsum] at htotal
        obtain ⟨hroot, hpath⟩ := hfits x (Option.some.inj htotal).symm
        rw [hroot, hpath] at hbeyond
        cases hbeyond
      · next hfits =>
        rw [Bool.not_eq_true, Bool.or_eq_false_iff] at hfits
        exact .ok (.numbers hsum fun _ _ => hfits) _
    · next total hwhole hsum =>
      exact .ok (.numbers hsum fun x hx => absurd hx (hwhole x)) _
    · next hnone =>
      refine .refused (fun h => ?_) _
      obtain ⟨total, htotal, -⟩ := hnumbers h
      rw [hnone] at htotal
      cases htotal

theorem tells_baseUriOf (hE : Fault.AreExpected escapes E) (document : Document) :
    Tells E (HasBase document.body) (baseUriOf document) := by
  have hlast (base : Json) (p : Prop) (hp : p) :
      Tells E p (if base.isGiven then .ok base else .error (.noBaseUrl document.name)) := by
    split
    · exact .ok hp base
    · exact .error (hE.descriptive _ rfl)
  unfold baseUriOf HasBase
  cases hroot : Json.lookup "rootUrl" document.body with
  | none => exact hlast _ _ fun root h => by cases h
  | some root =>
    have hjoined := (tells_joined (E := E) root (Json.getOr document.body "servicePath" (.str "")))
    refine (hjoined.bind fun base _ => hlast base True trivial).congr ?_
    constructor
    · rintro ⟨h, -⟩ found hfound
      cases hfound
      exact h
    · intro h
      exact ⟨h root rfl, trivial⟩

/-- Reading a service tells whether the description that a value holds, if it is a document, has the
shapes that are needed: it gives a service for no other document, and for a document that has them
only the expected faults. -/
theorem tells_ofJson (hE : Fault.AreExpected escapes E) (value : Json) :
    Tells E (∀ described, Document.ofJson value = .ok described →
      IsReadable escapes described.body) (ofJson value) := by
  rw [ofJson]
  cases hdocument : Document.ofJson value with
  | error fault => exact .error (hE.descriptive fault (Document.isDescriptive_ofJson hdocument))
  | ok described =>
    refine Tells.congr (p := HasBase described.body ∧
      Json.EachAt described.body "parameters" (Parameter.IsReadable escapes) ∧
        Tree.Everywhere (Resource.HasMethods escapes) described.body) ?_ ?_
    · refine (tells_baseUriOf hE described).bind fun base _ => ?_
      refine .bind_both fun declared _ => ?_
      refine (Parameter.tells_allOfJson hE declared).bind fun shared _ => ?_
      exact (Resource.tells_nested hE shared described.body).map _
    · constructor
      · rintro ⟨hbase, hparameters, hmethods⟩ found hfound
        cases hfound
        exact ⟨hbase, hparameters, hmethods⟩
      · intro h
        have hreadable := h described rfl
        exact ⟨hreadable.base, hreadable.parameters, hreadable.methods⟩

end Service
end ApiDiscovery.Discovery
