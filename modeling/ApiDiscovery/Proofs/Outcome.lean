import Mathlib.Data.List.Basic

/-!
# Outcomes

When one outcome after another is a success, and when it is a fault. A reader tells whether what it
reads has a form (`Tells`) if it succeeds on nothing else, and fails on that form only for causes
that are expected; a reader that is put together from such readers is one.
-/

namespace ApiDiscovery.Outcome

variable {ε φ α β : Type}

theorem ok_bind (a : α) (f : α → Except ε β) : Except.ok a >>= f = f a := rfl

theorem error_bind (e : ε) (f : α → Except ε β) : Except.error e >>= f = .error e := rfl

@[simp]
theorem bind_eq_ok {x : Except ε α} {f : α → Except ε β} {b : β} :
    x >>= f = .ok b ↔ ∃ a, x = .ok a ∧ f a = .ok b := by
  cases x with
  | error e => simp [bind, Except.bind]
  | ok a => simp [bind, Except.bind]

@[simp]
theorem bind_eq_error {x : Except ε α} {f : α → Except ε β} {e : ε} :
    x >>= f = .error e ↔ x = .error e ∨ ∃ a, x = .ok a ∧ f a = .error e := by
  cases x with
  | error e => simp [bind, Except.bind]
  | ok a => simp [bind, Except.bind]

@[simp]
theorem mapError_eq_ok {x : Except ε α} {f : ε → φ} {a : α} :
    x.mapError f = .ok a ↔ x = .ok a := by
  cases x with
  | error e => simp [Except.mapError]
  | ok a => simp [Except.mapError]

@[simp]
theorem mapError_eq_error {x : Except ε α} {f : ε → φ} {e : φ} :
    x.mapError f = .error e ↔ ∃ e', x = .error e' ∧ f e' = e := by
  cases x with
  | error e => simp [Except.mapError]
  | ok a => simp [Except.mapError]

@[simp]
theorem map_eq_ok {x : Except ε α} {f : α → β} {b : β} :
    x.map f = .ok b ↔ ∃ a, x = .ok a ∧ f a = b := by
  cases x with
  | error e => simp [Except.map]
  | ok a => simp [Except.map]

@[simp]
theorem map_eq_error {x : Except ε α} {f : α → β} {e : ε} : x.map f = .error e ↔ x = .error e := by
  cases x with
  | error e => simp [Except.map]
  | ok a => simp [Except.map]

theorem eq_ok_of_toOption {x : Except ε α} {a : α} (h : x.toOption = some a) : x = .ok a := by
  cases x with
  | error e => cases h
  | ok b =>
    cases h
    rfl

theorem exists_ok_of_isSome {x : Except ε α} (h : x.toOption.isSome = true) : ∃ a, x = .ok a := by
  obtain ⟨a, ha⟩ := Option.isSome_iff_exists.1 h
  exact ⟨a, eq_ok_of_toOption ha⟩

theorem exists_ok_of_map {x : Except ε α} {f : α → β} {b : β} (h : x.toOption.map f = some b) :
    ∃ a, x = .ok a ∧ f a = b := by
  obtain ⟨a, ha, hb⟩ := Option.map_eq_some_iff.1 h
  exact ⟨a, eq_ok_of_toOption ha, hb⟩

/-- The fault of an outcome that is one. -/
def faultOf? : Except ε α → Option ε
  | .error e => some e
  | .ok _ => none

theorem exists_error_of_map {x : Except ε α} {f : ε → β} {b : β}
    (h : (faultOf? x).map f = some b) : ∃ e, x = .error e ∧ f e = b := by
  cases x with
  | error e => exact ⟨e, rfl, Option.some.inj h⟩
  | ok a => cases h

/-- An outcome that comes with something else. -/
theorem eq_of_fst {p : α × β} {a : α} (h : p.1 = a) : p = (a, p.2) := by
  rw [← h]

@[simp]
theorem pure_eq_ok {a b : α} : (pure a : Except ε α) = .ok b ↔ a = b := by
  simp [pure, Except.pure]

/-! ## Outcomes that tell a condition -/

/-- The outcome tells whether a condition holds, up to expected faults: a success means that it
holds, and where it holds every fault is an expected one. -/
structure Tells (Expected : ε → Prop) (condition : Prop) (x : Except ε α) : Prop where
  holds : ∀ a, x = .ok a → condition
  expected : condition → ∀ fault, x = .error fault → Expected fault

namespace Tells

variable {E : ε → Prop} {F : φ → Prop} {p q : Prop} {x : Except ε α} {f : α → Except ε β}

theorem ok (hp : p) (a : α) : Tells E p (.ok a) where
  holds _ _ := hp
  expected _ _ h := by cases h

/-- A fault is no success, so it need only be an expected one where the condition holds. -/
theorem failed {fault : ε} (h : p → E fault) : Tells E p (.error fault : Except ε α) where
  holds _ hok := by cases hok
  expected hp _ heq := by
    cases heq
    exact h hp

theorem error {fault : ε} (hfault : E fault) : Tells E p (.error fault : Except ε α) :=
  .failed fun _ => hfault

theorem refused (hp : ¬p) (fault : ε) : Tells E p (.error fault : Except ε α) :=
  .failed fun h => absurd h hp

/-- Every outcome tells whether it is a success. -/
theorem self (x : Except ε α) : Tells E (∃ a, x = .ok a) x where
  holds a ha := ⟨a, ha⟩
  expected := by
    rintro ⟨a, rfl⟩ fault h
    cases h

theorem congr (hx : Tells E p x) (h : p ↔ q) : Tells E q x where
  holds a ha := h.1 (hx.holds a ha)
  expected hq := hx.expected (h.2 hq)

theorem map (hx : Tells E p x) (f : α → β) : Tells E p (x.map f) := by
  cases x with
  | error fault => exact .failed fun hp => hx.expected hp fault rfl
  | ok a => exact .ok (hx.holds a rfl) (f a)

theorem mapError (hx : Tells E p x) {g : ε → φ} (hg : ∀ fault, E fault → F (g fault)) :
    Tells F p (x.mapError g) where
  holds a h := hx.holds a (mapError_eq_ok.1 h)
  expected hp fault h := by
    obtain ⟨found, hfound, rfl⟩ := mapError_eq_error.1 h
    exact hg found (hx.expected hp found hfound)

theorem bind (hx : Tells E p x) (hf : ∀ a, x = .ok a → Tells E q (f a)) :
    Tells E (p ∧ q) (x >>= f) where
  holds b h := by
    obtain ⟨a, ha, hb⟩ := bind_eq_ok.1 h
    exact ⟨hx.holds a ha, (hf a ha).holds b hb⟩
  expected := by
    rintro ⟨hp, hq⟩ fault h
    rcases bind_eq_error.1 h with h | ⟨a, ha, h⟩
    · exact hx.expected hp fault h
    · exact (hf a ha).expected hq fault h

/-- Nothing goes wrong after the first outcome. -/
theorem bind_total (hx : Tells E p x) (hf : ∀ a, x = .ok a → ∃ b, f a = .ok b) :
    Tells E p (x >>= f) := by
  have hnext (a : α) (ha : x = .ok a) : Tells E True (f a) := by
    obtain ⟨b, hb⟩ := hf a ha
    rw [hb]
    exact .ok trivial b
  exact (hx.bind hnext).congr (and_iff_left trivial)

/-- The first outcome is itself what the condition asks for. -/
theorem bind_exists {c : α → Prop} (hf : ∀ a, x = .ok a → Tells E (c a) (f a)) :
    Tells E (∃ a, x = .ok a ∧ c a) (x >>= f) where
  holds b h := by
    obtain ⟨a, ha, hb⟩ := bind_eq_ok.1 h
    exact ⟨a, ha, (hf a ha).holds b hb⟩
  expected := by
    rintro ⟨a, rfl, hc⟩
    exact (hf a rfl).expected hc

/-- The first outcome is what one half of the condition asks for. -/
theorem bind_both {c : α → Prop} (hf : ∀ a, x = .ok a → Tells E (c a ∧ q) (f a)) :
    Tells E ((∃ a, x = .ok a ∧ c a) ∧ q) (x >>= f) := by
  refine (bind_exists hf).congr ?_
  constructor
  · rintro ⟨a, ha, hc, hq⟩
    exact ⟨⟨a, ha, hc⟩, hq⟩
  · rintro ⟨⟨a, ha, hc⟩, hq⟩
    exact ⟨a, ha, hc, hq⟩

/-- The first outcome has only faults that are expected. -/
theorem bind_expected (hx : ∀ fault, x = .error fault → E fault)
    (hf : ∀ a, x = .ok a → Tells E p (f a)) : Tells E p (x >>= f) := by
  cases x with
  | error fault => exact .error (hx fault rfl)
  | ok a => exact hf a rfl

/-- The outcome is only looked at under an assumption. -/
theorem ite {b : Prop} [Decidable b] (hx : Tells E p x) (a : α) :
    Tells E (b → p) (if b then x else .ok a) := by
  by_cases hb : b
  · rw [if_pos hb]
    exact hx.congr ⟨fun h _ => h, fun h => h hb⟩
  · rw [if_neg hb]
    exact .ok (fun h => absurd h hb) a

/-- A reader that goes from item to item tells whether the condition holds of all. -/
theorem all {γ : Type} {c : γ → Prop} {read : γ → Except ε α} (readAll : List γ → Except ε β)
    (g : γ → α → β → β) {b : β} (hnil : readAll [] = .ok b)
    (hcons : ∀ item rest, readAll (item :: rest) = (do
      let first ← read item
      let others ← readAll rest
      return g item first others))
    (items : List γ) (hread : ∀ item ∈ items, Tells E (c item) (read item)) :
    Tells E (∀ item ∈ items, c item) (readAll items) := by
  induction items with
  | nil =>
    rw [hnil]
    exact .ok (fun item hitem => absurd hitem List.not_mem_nil) b
  | cons item items ih =>
    have hrest := ih fun other hother => hread other (List.mem_cons_of_mem item hother)
    have hboth := (hread item List.mem_cons_self).bind fun first _ =>
      hrest.map (g item first)
    rw [hcons]
    exact hboth.congr List.forall_mem_cons.symm

end Tells

end ApiDiscovery.Outcome
