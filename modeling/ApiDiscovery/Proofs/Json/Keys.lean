import ApiDiscovery.Discovery.Shape
import ApiDiscovery.Json.Reader
import ApiDiscovery.Proofs.Ordered
import Mathlib.Data.List.Nodup

/-!
# Distinct keys

A value that a text was read as has objects with distinct keys at every depth
(`hasDistinctKeys_ofText`), because a key that comes again takes the place of the first. So each
member is what is found under its key.
-/

namespace ApiDiscovery.Json

mutual

/-- No object in the value has two members with the same key. -/
def hasDistinctKeys : Json → Bool
  | arr items => itemsHaveDistinctKeys items
  | obj members => decide (keys members).Nodup && membersHaveDistinctKeys members
  | _ => true

/-- No object in an item has two members with the same key. -/
def itemsHaveDistinctKeys : List Json → Bool
  | [] => true
  | item :: rest => hasDistinctKeys item && itemsHaveDistinctKeys rest

/-- No object in the value of a member has two members with the same key. -/
def membersHaveDistinctKeys : List (String × Json) → Bool
  | [] => true
  | (_, value) :: rest => hasDistinctKeys value && membersHaveDistinctKeys rest

end

theorem itemsHaveDistinctKeys_iff (items : List Json) :
    itemsHaveDistinctKeys items = true ↔ ∀ item ∈ items, item.hasDistinctKeys = true := by
  induction items with
  | nil => simp [itemsHaveDistinctKeys]
  | cons item items ih => simp [itemsHaveDistinctKeys, ih]

theorem membersHaveDistinctKeys_iff (members : Members) :
    membersHaveDistinctKeys members = true ↔ ∀ p ∈ members, p.2.hasDistinctKeys = true := by
  induction members with
  | nil => simp [membersHaveDistinctKeys]
  | cons p members ih => simp [membersHaveDistinctKeys, ih]

theorem hasDistinctKeys_obj (members : Members) :
    (obj members).hasDistinctKeys = true ↔
      (keys members).Nodup ∧ ∀ p ∈ members, p.2.hasDistinctKeys = true := by
  rw [hasDistinctKeys, Bool.and_eq_true, decide_eq_true_eq, membersHaveDistinctKeys_iff]

theorem eq_obj_of_asObject {value : Json} {members : Members} (h : value.asObject = .ok members) :
    value = obj members := by
  cases value with
  | obj found =>
    cases h
    rfl
  | _ => cases h

/-- What stands under a key for an object is an object. -/
theorem getOr_of_objectAt {members inner : Members} {key : String}
    (h : objectAt members key = .ok inner) : getOr members key (obj []) = obj inner :=
  eq_obj_of_asObject h

/-- The members of an object under a key have distinct keys themselves. -/
theorem hasDistinctKeys_objectAt {members : Members} {key : String}
    (h : (obj members).hasDistinctKeys = true) {inner : Members}
    (hinner : objectAt members key = .ok inner) : (obj inner).hasDistinctKeys = true := by
  have hvalue := getOr_of_objectAt hinner
  rw [getOr] at hvalue
  cases hlookup : lookup key members with
  | none =>
    rw [hlookup] at hvalue
    cases hvalue
    rfl
  | some value =>
    rw [hlookup] at hvalue
    obtain rfl : value = obj inner := hvalue
    exact ((hasDistinctKeys_obj members).1 h).2 _ (Ordered.mem_of_get? hlookup)

/-! ## What a text is read as -/

namespace Reader

/-- A member that is added or replaced leaves the keys distinct. -/
theorem hasDistinctKeys_insert {members : Members} {value : Json}
    (hmembers : (obj members).hasDistinctKeys = true) (hvalue : value.hasDistinctKeys = true)
    (key : String) : (obj (Ordered.insert key value members)).hasDistinctKeys = true := by
  rw [hasDistinctKeys_obj] at hmembers ⊢
  refine ⟨?_, fun p hp => ?_⟩
  · have hnodup : (Ordered.names members).Nodup := hmembers.1
    show (Ordered.names (Ordered.insert key value members)).Nodup
    rcases Ordered.names_insert key value members with h | ⟨hnew, h⟩
    · rw [h]
      exact hnodup
    · rw [h, List.nodup_append]
      refine ⟨hnodup, List.nodup_singleton key, ?_⟩
      rintro a ha b hb rfl
      exact hnew (List.mem_singleton.1 hb ▸ ha)
  · rcases Ordered.mem_of_mem_insert hp with heq | hp
    · exact heq ▸ hvalue
    · exact hmembers.2 p hp

theorem hasDistinctKeys_number {cur next : Cursor} {v : Json} (h : number cur = .ok (v, next)) :
    v.hasDistinctKeys = true := by
  unfold number at h
  split at h
  extract_lets whole afterWhole fraction fractionLength exponent exponentLength after at h
  clear_value fraction exponent after
  split at h
  · cases h
  · split at h
    · split at h
      · cases h
      · cases h
        rfl
    · cases h
      rfl

/-- With this much fuel the reader gives values with distinct keys, if what it has read of the items
or members before has them. -/
structure ReadsDistinctKeys (fuel : Nat) : Prop where
  value : ∀ {cur v next}, Reader.value fuel cur = .ok (v, next) → v.hasDistinctKeys = true
  items : ∀ {read cur v next}, (∀ item ∈ read, item.hasDistinctKeys = true) →
    Reader.items fuel read cur = .ok (v, next) → v.hasDistinctKeys = true
  members : ∀ {read cur v next}, (obj read).hasDistinctKeys = true →
    Reader.members fuel read cur = .ok (v, next) → v.hasDistinctKeys = true

namespace ReadsDistinctKeys

variable {fuel : Nat} {cur next : Cursor} {v : Json}

theorem value_succ (ih : ReadsDistinctKeys fuel)
    (h : Reader.value (fuel + 1) cur = .ok (v, next)) : v.hasDistinctKeys = true := by
  unfold Reader.value at h
  split at h
  · split at h
    · cases h
      rfl
    · cases h
  · dsimp only at h
    split at h
    · cases h
      rfl
    · exact ih.items (fun item hitem => absurd hitem List.not_mem_nil) h
  · dsimp only at h
    split at h
    · cases h
      rfl
    · exact ih.members rfl h
  · split at h
    · next text found hfound =>
      cases h
      have hscalar : ∀ p ∈ names, p.2.hasDistinctKeys = true := by decide
      exact hscalar _ (List.mem_of_find?_eq_some hfound)
    · exact hasDistinctKeys_number h

theorem items_succ (ih : ReadsDistinctKeys fuel) {read : List Json}
    (hread : ∀ item ∈ read, item.hasDistinctKeys = true)
    (h : Reader.items (fuel + 1) read cur = .ok (v, next)) : v.hasDistinctKeys = true := by
  unfold Reader.items at h
  split at h
  · cases h
  · next item after hitem =>
    have hitems : ∀ found ∈ item :: read, found.hasDistinctKeys = true :=
      List.forall_mem_cons.2 ⟨ih.value hitem, hread⟩
    dsimp only at h
    split at h
    · cases h
      rw [hasDistinctKeys, itemsHaveDistinctKeys_iff]
      exact fun found hfound => hitems found (List.mem_reverse.1 hfound)
    · exact ih.items hitems h
    · cases h

theorem members_succ (ih : ReadsDistinctKeys fuel) {read : Members}
    (hread : (obj read).hasDistinctKeys = true)
    (h : Reader.members (fuel + 1) read cur = .ok (v, next)) : v.hasDistinctKeys = true := by
  unfold Reader.members at h
  split at h
  · split at h
    · cases h
    · next key next hkey =>
      dsimp only at h
      split at h
      · split at h
        · cases h
        · next item after hitem =>
          have hmembers := hasDistinctKeys_insert hread (ih.value hitem) key
          split at h
          · cases h
            exact hmembers
          · exact ih.members hmembers h
          · cases h
      · cases h
  · cases h

end ReadsDistinctKeys

/-- The reader gives values with distinct keys, whatever its fuel. -/
theorem readsDistinctKeys (fuel : Nat) : ReadsDistinctKeys fuel := by
  induction fuel with
  | zero =>
    constructor
    · intro cur v next h
      cases h
    · intro read cur v next _ h
      cases h
    · intro read cur v next _ h
      cases h
  | succ fuel ih => exact ⟨ih.value_succ, ih.items_succ, ih.members_succ⟩

end Reader

/-- A value that was read from a text has distinct keys. -/
theorem hasDistinctKeys_ofText {text : String} {v : Json} (h : ofText text = .ok v) :
    v.hasDistinctKeys = true := by
  rw [ofText] at h
  unfold Reader.read at h
  split at h
  · cases h
  · dsimp only at h
    split at h
    · cases h
    · next found next hfound =>
      split at h
      · cases h
        exact (Reader.readsDistinctKeys _).value hfound
      · cases h

end ApiDiscovery.Json
