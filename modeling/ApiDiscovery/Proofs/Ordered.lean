import ApiDiscovery.Ordered
import Mathlib.Data.List.Forall2

/-!
# Maps in order

What is in a map is found there, and what is added to it goes to its end, or into the place of what
had the same name. Where the items of one list were made from those of another, each has a partner
(`exists_of_mem_left`, `exists_of_mem_right`), and what the partners share is the same list
(`map_eq_map_of_forall₂`).
-/

namespace ApiDiscovery

/-! ## Two lists side by side -/

section Lists

variable {α β γ : Type} {R : α → β → Prop} {l : List α} {m : List β}

theorem exists_of_mem_left (h : List.Forall₂ R l m) {a : α} (ha : a ∈ l) : ∃ b ∈ m, R a b := by
  induction h with
  | nil => exact absurd ha List.not_mem_nil
  | @cons first b l m hfirst _ ih =>
    rcases List.mem_cons.1 ha with rfl | ha
    · exact ⟨b, List.mem_cons_self, hfirst⟩
    · obtain ⟨other, hother, hab⟩ := ih ha
      exact ⟨other, List.mem_cons_of_mem b hother, hab⟩

theorem exists_of_mem_right (h : List.Forall₂ R l m) {b : β} (hb : b ∈ m) : ∃ a ∈ l, R a b :=
  exists_of_mem_left h.flip hb

theorem map_eq_map_of_forall₂ {f : α → γ} {g : β → γ} (h : List.Forall₂ R l m)
    (hfg : ∀ a b, R a b → f a = g b) : l.map f = m.map g := by
  have hmaps : List.Forall₂ (fun c d => c = d) (l.map f) (m.map g) := by
    rw [List.forall₂_map_left_iff, List.forall₂_map_right_iff]
    exact h.imp hfg
  rwa [List.forall₂_eq_eq_eq] at hmaps

end Lists

/-! ## Finding and adding -/

namespace Ordered

variable {α : Type}

theorem names_cons (p : String × α) (m : Ordered α) : names (p :: m) = p.1 :: names m := rfl

theorem names_append (l m : Ordered α) : names (l ++ m) = names l ++ names m := List.map_append

theorem get?_cons (p : String × α) (m : Ordered α) (name : String) :
    get? (p :: m) name = if name = p.1 then some p.2 else get? m name := by
  rw [get?, List.lookup_cons]
  by_cases h : name = p.1
  · rw [if_pos h, beq_iff_eq.2 h]
  · rw [if_neg h, beq_eq_false_iff_ne.2 h]
    rfl

theorem insert_cons (name : String) (value : α) (p : String × α) (m : Ordered α) :
    insert name value (p :: m) =
      if p.1 = name then (p.1, value) :: m else p :: insert name value m := rfl

theorem mem_of_get? {m : Ordered α} {name : String} {value : α} (h : get? m name = some value) :
    (name, value) ∈ m := by
  obtain ⟨before, behind, hm, -⟩ := List.lookup_eq_some_iff.1 h
  rw [hm]
  exact List.mem_append_right _ List.mem_cons_self

theorem has_iff {m : Ordered α} {name : String} : has m name = true ↔ name ∈ names m := by
  induction m with
  | nil => exact ⟨fun h => (by cases h), fun h => absurd h List.not_mem_nil⟩
  | cons p m ih =>
    rw [has, get?_cons, names_cons, List.mem_cons]
    by_cases h : name = p.1
    · rw [if_pos h]
      exact iff_of_true rfl (Or.inl h)
    · rw [if_neg h]
      simp only [h, false_or]
      exact ih

theorem get?_of_mem {m : Ordered α} (hnodup : (names m).Nodup) {p : String × α} (h : p ∈ m) :
    get? m p.1 = some p.2 := by
  induction m with
  | nil => exact absurd h List.not_mem_nil
  | cons first m ih =>
    rw [names_cons, List.nodup_cons] at hnodup
    rw [get?_cons]
    rcases List.mem_cons.1 h with rfl | h
    · exact if_pos rfl
    · have hne : p.1 ≠ first.1 := fun heq => hnodup.1 (heq ▸ List.mem_map_of_mem h)
      rw [if_neg hne]
      exact ih hnodup.2 h

/-- Where names are distinct, a name has one value. -/
theorem eq_of_mem {m : Ordered α} (hnodup : (names m).Nodup) {name : String} {a b : α}
    (ha : (name, a) ∈ m) (hb : (name, b) ∈ m) : a = b :=
  Option.some.inj ((get?_of_mem hnodup ha).symm.trans (get?_of_mem hnodup hb))

theorem insert_of_not_mem {name : String} (value : α) {m : Ordered α} (h : name ∉ names m) :
    insert name value m = m ++ [(name, value)] := by
  induction m with
  | nil => rfl
  | cons p m ih =>
    rw [names_cons, List.mem_cons, not_or] at h
    rw [insert_cons, if_neg (Ne.symm h.1), ih h.2, List.cons_append]

theorem mem_insert {name : String} {value : α} {m : Ordered α} {p : String × α}
    (h : p ∈ insert name value m) : p.1 = name ∨ ∃ q ∈ m, p.1 = q.1 := by
  induction m with
  | nil =>
    obtain rfl := List.mem_singleton.1 h
    exact Or.inl rfl
  | cons first m ih =>
    rw [insert_cons] at h
    split at h
    · rcases List.mem_cons.1 h with rfl | h
      · exact Or.inr ⟨first, List.mem_cons_self, rfl⟩
      · exact Or.inr ⟨p, List.mem_cons_of_mem first h, rfl⟩
    · rcases List.mem_cons.1 h with rfl | h
      · exact Or.inr ⟨p, List.mem_cons_self, rfl⟩
      · apply (ih h).imp_right
        rintro ⟨q, hq, heq⟩
        exact ⟨q, List.mem_cons_of_mem first hq, heq⟩

/-- A name that is added is new, or it was there already. -/
theorem names_insert (name : String) (value : α) (m : Ordered α) :
    names (insert name value m) = names m ∨
      (name ∉ names m ∧ names (insert name value m) = names m ++ [name]) := by
  by_cases h : name ∈ names m
  · left
    induction m with
    | nil => exact absurd h List.not_mem_nil
    | cons p m ih =>
      rw [insert_cons]
      split
      · rfl
      · next hne =>
        rw [names_cons, List.mem_cons] at h
        rw [names_cons, names_cons, ih (h.resolve_left (Ne.symm hne))]
  · right
    rw [insert_of_not_mem value h, names_append]
    exact ⟨h, rfl⟩

/-- A pair of the map with a value added has this value, or it was there before. -/
theorem mem_of_mem_insert {name : String} {value : α} {m : Ordered α} {p : String × α}
    (h : p ∈ insert name value m) : p.2 = value ∨ p ∈ m := by
  induction m with
  | nil =>
    obtain rfl := List.mem_singleton.1 h
    exact Or.inl rfl
  | cons first m ih =>
    rw [insert_cons] at h
    split at h
    · rcases List.mem_cons.1 h with rfl | h
      · exact Or.inl rfl
      · exact Or.inr (List.mem_cons_of_mem first h)
    · rcases List.mem_cons.1 h with rfl | h
      · exact Or.inr List.mem_cons_self
      · exact (ih h).imp_right (List.mem_cons_of_mem first)

theorem get?_insert (name : String) (value : α) (m : Ordered α) (other : String) :
    get? (insert name value m) other = if other = name then some value else get? m other := by
  induction m with
  | nil => exact get?_cons (name, value) [] other
  | cons p m ih =>
    rw [insert_cons, get?_cons]
    by_cases hname : p.1 = name
    · rw [if_pos hname, get?_cons, hname]
      split
      · rfl
      · rfl
    · rw [if_neg hname, get?_cons, ih]
      by_cases h : other = p.1
      · rw [if_pos h, if_pos h, if_neg (h ▸ hname)]
      · rw [if_neg h, if_neg h]

/-- A pair that is added is found before one that was there. -/
theorem get?_insertAll {added : Ordered α} (hnodup : (names added).Nodup) (m : Ordered α)
    (name : String) : get? (insertAll m added) name = (get? added name).or (get? m name) := by
  induction added generalizing m with
  | nil => rfl
  | cons p added ih =>
    rw [names_cons, List.nodup_cons] at hnodup
    rw [insertAll, ih hnodup.2, get?_insert, get?_cons]
    by_cases h : name = p.1
    · have hnone : get? added name = none := by
        rw [← Option.not_isSome_iff_eq_none]
        exact fun hsome => hnodup.1 (h ▸ has_iff.1 hsome)
      rw [hnone, if_pos h, if_pos h]
      rfl
    · rw [if_neg h, if_neg h]

theorem mem_names_insertAll {added : Ordered α} (hnodup : (names added).Nodup) (m : Ordered α)
    (name : String) :
    name ∈ names (insertAll m added) ↔ name ∈ names added ∨ name ∈ names m := by
  rw [← has_iff, ← has_iff, ← has_iff, has, has, has, get?_insertAll hnodup,
    Option.isSome_or, Bool.or_eq_true]

theorem foldl_insert {acc m : Ordered α} (h : (names (acc ++ m)).Nodup) :
    m.foldl (fun acc p => insert p.1 p.2 acc) acc = acc ++ m := by
  induction m generalizing acc with
  | nil => exact (List.append_nil acc).symm
  | cons p m ih =>
    have hnew : p.1 ∉ names acc := by
      rw [names_append] at h
      exact fun hmem => (List.nodup_append.1 h).2.2 _ hmem _ List.mem_cons_self rfl
    rw [List.foldl_cons, insert_of_not_mem p.2 hnew, ih, List.append_assoc, List.singleton_append]
    rw [List.append_assoc, List.singleton_append]
    exact h

end Ordered

end ApiDiscovery
