import ApiDiscovery.Discovery.Resource
import ApiDiscovery.Proofs.Ordered
import ApiDiscovery.Proofs.Outcome

/-!
# What is read from an object

Parameters, methods and resources are read member by member (`IsReadAs`), so they have the names of
the members, and the first member of a name is the one whose value is found under it.
-/

namespace ApiDiscovery.Discovery

open Outcome

variable {α : Type}

/-- The pair has the name of the member and what was read from its value. -/
structure IsReadAs (read : String → Json → Except Fault α) (member : String × Json)
    (pair : String × α) : Prop where
  name : pair.1 = member.1
  value : read member.1 member.2 = .ok pair.2

section Members

variable {read : String → Json → Except Fault α} {members : Json.Members} {pairs : Ordered α}

theorem names_of_isReadAs (h : List.Forall₂ (IsReadAs read) members pairs) :
    Ordered.names pairs = Json.keys members :=
  (map_eq_map_of_forall₂ h fun _ _ hpair => hpair.name.symm).symm

theorem get?_of_isReadAs (h : List.Forall₂ (IsReadAs read) members pairs) {name : String}
    {value : Json} (hvalue : Json.lookup name members = some value) :
    ∃ a, Ordered.get? pairs name = some a ∧ read name value = .ok a := by
  induction h with
  | nil => cases hvalue
  | @cons member pair members pairs hpair _ ih =>
    rw [Json.lookup, List.lookup_cons] at hvalue
    rw [Ordered.get?, List.lookup_cons, hpair.name]
    by_cases hname : name = member.1
    · subst hname
      rw [beq_self_eq_true] at hvalue ⊢
      cases hvalue
      exact ⟨pair.2, rfl, hpair.value⟩
    · rw [beq_eq_false_iff_ne.2 hname] at hvalue ⊢
      exact ih hvalue

/-- A reader that goes from member to member has read them all if it succeeds. -/
theorem isReadAs_of_cons {readAll : Json.Members → Except Fault (Ordered α)}
    (hnil : readAll [] = .ok [])
    (hcons : ∀ name value rest, readAll ((name, value) :: rest) = (do
      let first ← read name value
      let others ← readAll rest
      return (name, first) :: others))
    (h : readAll members = .ok pairs) : List.Forall₂ (IsReadAs read) members pairs := by
  induction members generalizing pairs with
  | nil =>
    rw [hnil] at h
    cases h
    exact List.Forall₂.nil
  | cons member members ih =>
    simp only [hcons, bind_eq_ok, pure_eq_ok] at h
    obtain ⟨first, hfirst, others, hothers, rfl⟩ := h
    exact List.Forall₂.cons ⟨rfl, hfirst⟩ (ih hothers)

end Members

theorem Parameter.allOfJson_isReadAs {members : Json.Members} {parameters : Ordered Parameter}
    (h : allOfJson members = .ok parameters) :
    List.Forall₂ (IsReadAs ofJson) members parameters :=
  isReadAs_of_cons rfl (fun _ _ _ => rfl) h

theorem Method.allOfJson_isReadAs {shared : Ordered Parameter} {members : Json.Members}
    {methods : Ordered Method} (h : allOfJson shared members = .ok methods) :
    List.Forall₂ (IsReadAs (ofJson shared)) members methods :=
  isReadAs_of_cons rfl (fun _ _ _ => rfl) h

theorem Parameter.ofJson_eq_ok {name : String} {declared : Json} {parameter : Parameter}
    (h : ofJson name declared = .ok parameter) :
    ∃ members, declared.asObject = .ok members ∧
      locationOf name members = .ok parameter.location ∧
      patternOf name members = .ok parameter.pattern ∧
      parameter.required = Json.isGivenAt members "required" ∧
      parameter.repeated = Json.isGivenAt members "repeated" := by
  simp only [ofJson, bind_eq_ok, pure_eq_ok] at h
  obtain ⟨members, hmembers, location, hlocation, pattern, hpattern, choices, -, rfl⟩ := h
  exact ⟨members, hmembers, hlocation, hpattern, rfl, rfl⟩

theorem Method.ofJson_eq_ok {shared : Ordered Parameter} {name : String} {declared : Json}
    {method : Method} (h : ofJson shared name declared = .ok method) :
    ∃ members own parameters, declared.asObject = .ok members ∧
      Json.objectAt members "parameters" = .ok own ∧
      Parameter.allOfJson own = .ok parameters ∧ method.name = name ∧
      method.verb = verbOf members ∧ method.parameters = Ordered.insertAll shared parameters := by
  simp only [ofJson, bind_eq_ok] at h
  obtain ⟨members, hmembers, h⟩ := h
  split at h
  · cases h
  · simp only [bind_eq_ok, pure_eq_ok] at h
    obtain ⟨own, hown, parameters, hparameters, order, -, rfl⟩ := h
    exact ⟨members, own, parameters, hmembers, hown, hparameters, rfl, rfl, rfl⟩

theorem Method.names_of_allOfJson {shared : Ordered Parameter} {members : Json.Members}
    {methods : Ordered Method} (h : allOfJson shared members = .ok methods) :
    methods.map (fun p => p.2.name) = Json.keys members := by
  have hread := allOfJson_isReadAs h
  clear h
  induction hread with
  | nil => rfl
  | cons hpair _ ih =>
    obtain ⟨-, -, -, -, -, -, hname, -⟩ := ofJson_eq_ok hpair.value
    exact congrArg₂ List.cons hname ih

theorem Resource.allOfJson_isReadAs {shared : Ordered Parameter} {members : Json.Members}
    {resources : Ordered Resource} (h : allOfJson shared members = .ok resources) :
    List.Forall₂ (IsReadAs (ofJson shared)) members resources :=
  isReadAs_of_cons (by rw [allOfJson]) (fun _ _ _ => by rw [allOfJson]) h

end ApiDiscovery.Discovery
