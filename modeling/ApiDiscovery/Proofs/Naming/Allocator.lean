import ApiDiscovery.Naming.Allocator
import Mathlib.Data.List.Nodup
import Mathlib.Data.List.Perm.Subperm

/-!
# Allocated names

A name that an allocator hands out is not in use before (`allocate_fresh`) and is in use after, with
all others (`uses_allocate`). The search for a free number ends in time because an allocator cannot
have more names in use than it holds (`uses_freeNumber`). Hence the names handed out one after
another differ from each other and from all that were in use (`allocateAll_fresh`).
-/

namespace ApiDiscovery.Naming.Allocator

variable (a : Allocator) (name : String)

/-! ## Names in use -/

theorem uses_iff : a.uses name = true ↔ name ∈ a.seen.map Prod.fst := by
  simp [uses, count?]

theorem uses_ofTaken (taken : List String) : (ofTaken taken).uses name = true ↔ name ∈ taken := by
  rw [uses_iff, ofTaken, List.map_map]
  simp [Function.comp_def]

/-! ## Numbered names -/

theorem toList_numbered (n : Nat) :
    (numbered name n).toList = name.toList ++ '_' :: (toString n).toList := by
  simp [numbered]

theorem numbered_injective {m n : Nat} (h : numbered name m = numbered name n) : m = n := by
  have hchars : (toString m).toList = (toString n).toList := by
    have hlists := congrArg String.toList h
    rw [toList_numbered, toList_numbered, List.append_cancel_left_eq, List.cons.injEq] at hlists
    exact hlists.2
  have hdigits : Nat.toDigits 10 m = Nat.toDigits 10 n := by
    simpa only [Nat.toString_eq_repr, Nat.toList_repr] using hchars
  simpa using congrArg (fun digits => Nat.ofDigitChars 10 digits 0) hdigits

theorem numbered_ne (n : Nat) : numbered name n ≠ name := by
  intro h
  have hlength := congrArg (fun s : String => s.toList.length) h
  simp only [toList_numbered, List.length_append, List.length_cons] at hlength
  omega

/-! ## The search for a free number -/

/-- The search goes on only over numbers whose names are in use. -/
theorem freeNumber_spec (fuel start : Nat) :
    a.uses (numbered name (a.freeNumber name fuel start)) = false ∨
      ∀ i < fuel, a.uses (numbered name (start + i)) = true := by
  induction fuel generalizing start with
  | zero => exact Or.inr fun i hi => absurd hi (Nat.not_lt_zero i)
  | succ fuel ih =>
    rw [freeNumber]
    by_cases h : a.uses (numbered name start) = true
    · rw [if_pos h]
      apply (ih (start + 1)).imp_right
      intro hused i hi
      cases i with
      | zero => exact h
      | succ i =>
        have hnext := hused i (Nat.lt_of_succ_lt_succ hi)
        rwa [Nat.add_right_comm] at hnext
    · rw [if_neg h]
      exact Or.inl (Bool.eq_false_iff.2 h)

/-- The name and as many numbered ones as there are names in use cannot all be in use. -/
theorem uses_freeNumber (h : a.uses name = true) (start : Nat) :
    a.uses (numbered name (a.freeNumber name a.seen.length start)) = false := by
  rcases freeNumber_spec a name a.seen.length start with hfree | hused
  · exact hfree
  · exfalso
    let tried := (List.range a.seen.length).map fun i => numbered name (start + i)
    have hnodup : (name :: tried).Nodup := by
      refine List.nodup_cons.2 ⟨?_, ?_⟩
      · intro hmem
        obtain ⟨i, -, heq⟩ := List.mem_map.1 hmem
        exact numbered_ne name _ heq
      · refine List.Nodup.map ?_ List.nodup_range
        intro i j heq
        exact Nat.add_left_cancel (numbered_injective name heq)
    have hsubset : name :: tried ⊆ a.seen.map Prod.fst := by
      intro n hn
      rcases List.mem_cons.1 hn with rfl | hn
      · exact (uses_iff a n).1 h
      · obtain ⟨i, hi, rfl⟩ := List.mem_map.1 hn
        exact (uses_iff a _).1 (hused i (List.mem_range.1 hi))
    have hlength := (hnodup.subperm hsubset).length_le
    simp only [tried, List.length_cons, List.length_map, List.length_range] at hlength
    omega

/-! ## One name -/

theorem allocate_of_none {a : Allocator} {name : String} (h : a.count? name = none) :
    a.allocate name = (name, ⟨(name, 1) :: a.seen⟩) := by
  rw [allocate, h]

theorem allocate_of_some {a : Allocator} {name : String} {tried : Nat}
    (h : a.count? name = some tried) :
    a.allocate name = (numbered name (a.freeNumber name a.seen.length (tried + 1)),
      ⟨(numbered name (a.freeNumber name a.seen.length (tried + 1)), 1) ::
        (name, a.freeNumber name a.seen.length (tried + 1)) :: a.seen⟩) := by
  rw [allocate, h]

/-- A name that is free is handed out itself, and one in use with a number. -/
theorem allocate_cases :
    (a.uses name = false ∧ (a.allocate name).1 = name) ∨
      (a.uses name = true ∧ ∃ n, (a.allocate name).1 = numbered name n) := by
  cases h : a.count? name with
  | none => exact Or.inl ⟨congrArg Option.isSome h, by rw [allocate_of_none h]⟩
  | some last => exact Or.inr ⟨congrArg Option.isSome h, _, by rw [allocate_of_some h]⟩

theorem allocate_fresh : a.uses (a.allocate name).1 = false := by
  cases h : a.count? name with
  | none =>
    rw [allocate_of_none h]
    exact congrArg Option.isSome h
  | some last =>
    rw [allocate_of_some h]
    exact uses_freeNumber a name (congrArg Option.isSome h) (last + 1)

theorem uses_allocate (n : String) :
    (a.allocate name).2.uses n = true ↔ n = (a.allocate name).1 ∨ a.uses n = true := by
  rw [uses_iff, uses_iff]
  cases h : a.count? name with
  | none => simp [allocate_of_none h]
  | some last =>
    -- The name itself is listed once more, with the number that was found.
    have hmem : name ∈ a.seen.map Prod.fst := (uses_iff a name).1 (congrArg Option.isSome h)
    simp only [allocate_of_some h, List.map_cons, List.mem_cons]
    constructor
    · rintro (hn | rfl | hn)
      · exact Or.inl hn
      · exact Or.inr hmem
      · exact Or.inr hn
    · rintro (hn | hn)
      · exact Or.inl hn
      · exact Or.inr (Or.inr hn)

/-! ## Names one after another -/

theorem allocateAll_cons (rest : List String) :
    a.allocateAll (name :: rest) = (a.allocate name).1 :: (a.allocate name).2.allocateAll rest :=
  rfl

theorem length_allocateAll (wanted : List String) :
    (a.allocateAll wanted).length = wanted.length := by
  induction wanted generalizing a with
  | nil => rfl
  | cons name wanted ih => rw [allocateAll_cons, List.length_cons, ih, List.length_cons]

theorem allocateAll_fresh (wanted : List String) :
    (a.allocateAll wanted).Nodup ∧ ∀ n ∈ a.allocateAll wanted, a.uses n = false := by
  induction wanted generalizing a with
  | nil => exact ⟨List.nodup_nil, fun n hn => absurd hn List.not_mem_nil⟩
  | cons name wanted ih =>
    obtain ⟨hnodup, hfresh⟩ := ih (a.allocate name).2
    rw [allocateAll_cons]
    -- What is handed out later is not in use after the first name, and so not before it.
    have hlater : ∀ n ∈ (a.allocate name).2.allocateAll wanted,
        n ≠ (a.allocate name).1 ∧ a.uses n = false := by
      intro n hn
      have hunused := hfresh n hn
      rw [← Bool.not_eq_true, uses_allocate, not_or, Bool.not_eq_true] at hunused
      exact hunused
    refine ⟨List.nodup_cons.2 ⟨fun hmem => (hlater _ hmem).1 rfl, hnodup⟩, ?_⟩
    intro n hn
    rcases List.mem_cons.1 hn with rfl | hn
    · exact allocate_fresh a name
    · exact (hlater n hn).2

theorem allocate_of_free {name : String} (h : a.uses name = false) : (a.allocate name).1 = name := by
  rcases allocate_cases a name with ⟨-, hname⟩ | ⟨hused, -⟩
  · exact hname
  · rw [h] at hused
    cases hused

/-- Distinct names that are free are handed out as they are. -/
theorem allocateAll_of_free {wanted : List String} (hnodup : wanted.Nodup)
    (hfree : ∀ n ∈ wanted, a.uses n = false) : a.allocateAll wanted = wanted := by
  induction wanted generalizing a with
  | nil => rfl
  | cons name wanted ih =>
    rw [List.nodup_cons] at hnodup
    have hname := allocate_of_free a (hfree name List.mem_cons_self)
    rw [allocateAll_cons, hname, ih (a.allocate name).2 hnodup.2]
    intro n hn
    rw [← Bool.not_eq_true, uses_allocate, hname, not_or, Bool.not_eq_true]
    refine ⟨?_, hfree n (List.mem_cons_of_mem name hn)⟩
    rintro rfl
    exact hnodup.1 hn

end ApiDiscovery.Naming.Allocator
