import ApiDiscovery.Proofs.Naming.Allocator

/-!
# The least unused number

An allocator keeps the last number that was tried for a name and goes on from there. All numbers
up to it are of names in use (`IsCurrent`), which a call preserves (`isCurrent_allocate`), so no
free number is passed over: a call gives the name itself or the name with the least unused number
from two (`isNext_allocate`). A run of calls follows this rule, which knows nothing of counters
(`gives_allocateAll`), and the rule leaves no choice (`Gives.unique`). So what is handed out
depends on which names are taken, and not on their order (`allocateAll_least`).
-/

namespace ApiDiscovery.Naming.Allocator

/-! ## The rule -/

/-- The number is the least one from two with which the name is none of the used ones. -/
structure IsLeastNumber (used : List String) (name : String) (k : Nat) : Prop where
  two_le : 2 ≤ k
  unused : numbered name k ∉ used
  least : ∀ j, 2 ≤ j → j < k → numbered name j ∈ used

/-- What is handed out for a name where others are used: the name itself if it is not, and
otherwise the name with the least unused number, which is at most one more than there are used
names. -/
def IsNext (used : List String) (name given : String) : Prop :=
  (name ∉ used ∧ given = name) ∨
    (name ∈ used ∧ ∃ k ≤ used.length + 1, IsLeastNumber used name k ∧ given = numbered name k)

/-- The names `given` are handed out in turn for those that are wanted, each in view of the used
ones and of all that were given before it. -/
inductive Gives : List String → List String → List String → Prop
  | nil {used : List String} : Gives used [] []
  | cons {used wanted rest : List String} {name given : String} : IsNext used name given →
      Gives (used ++ [given]) wanted rest → Gives used (name :: wanted) (given :: rest)

section Rule

variable {used other : List String} {name : String}

theorem IsLeastNumber.unique {j k : Nat} (hj : IsLeastNumber used name j)
    (hk : IsLeastNumber used name k) : j = k := by
  rcases Nat.lt_trichotomy j k with hlt | heq | hgt
  · exact absurd (hk.least j hj.two_le hlt) hj.unused
  · exact heq
  · exact absurd (hj.least k hk.two_le hgt) hk.unused

theorem IsLeastNumber.congr (h : ∀ n, n ∈ used ↔ n ∈ other) {k : Nat}
    (hk : IsLeastNumber used name k) : IsLeastNumber other name k :=
  ⟨hk.two_le, fun hmem => hk.unused ((h _).2 hmem), fun j hj hlt => (h _).1 (hk.least j hj hlt)⟩

/-- The name and the numbered ones below the least number are used, and they all differ. -/
theorem IsLeastNumber.le_length (hname : name ∈ used) {k : Nat} (hk : IsLeastNumber used name k) :
    k ≤ used.length + 1 := by
  let passed := (List.range (k - 2)).map fun i => numbered name (i + 2)
  have hnodup : (name :: passed).Nodup := by
    refine List.nodup_cons.2 ⟨?_, ?_⟩
    · intro hmem
      obtain ⟨i, -, heq⟩ := List.mem_map.1 hmem
      exact numbered_ne name _ heq
    · refine List.Nodup.map ?_ List.nodup_range
      intro i j heq
      exact Nat.add_right_cancel (numbered_injective name heq)
  have hsubset : name :: passed ⊆ used := by
    refine List.cons_subset.2 ⟨hname, ?_⟩
    intro n hn
    obtain ⟨i, hi, rfl⟩ := List.mem_map.1 hn
    have hlt := List.mem_range.1 hi
    exact hk.least (i + 2) (by omega) (by omega)
  have hlength := (hnodup.subperm hsubset).length_le
  simp only [passed, List.length_cons, List.length_map, List.length_range] at hlength
  omega

/-- The rule asks which names are used, and leaves no choice. -/
theorem IsNext.unique (h : ∀ n, n ∈ used ↔ n ∈ other) {given given' : String}
    (hgiven : IsNext used name given) (hgiven' : IsNext other name given') : given = given' := by
  rcases hgiven with ⟨hfree, rfl⟩ | ⟨hused, j, -, hj, rfl⟩
  · rcases hgiven' with ⟨-, rfl⟩ | ⟨hused, -⟩
    · rfl
    · exact absurd ((h _).2 hused) hfree
  · rcases hgiven' with ⟨hfree, -⟩ | ⟨-, k, -, hk, rfl⟩
    · exact absurd ((h _).1 hused) hfree
    · rw [(hj.congr h).unique hk]

/-- A run that follows the rule leaves no choice either. -/
theorem Gives.unique {wanted given given' : List String} (hgives : Gives used wanted given)
    (h : ∀ n, n ∈ used ↔ n ∈ other) (hgives' : Gives other wanted given') : given = given' := by
  induction hgives generalizing other given' with
  | nil =>
    cases hgives'
    rfl
  | cons hnext _ ih =>
    cases hgives' with
    | cons hnext' hrest' =>
      obtain rfl := hnext.unique h hnext'
      rw [ih (fun n => by rw [List.mem_append, List.mem_append, h]) hrest']

end Rule

/-! ## The search -/

variable (a : Allocator) (name : String)

theorem le_freeNumber (fuel start : Nat) : start ≤ a.freeNumber name fuel start := by
  induction fuel generalizing start with
  | zero => exact Nat.le_refl start
  | succ fuel ih =>
    rw [freeNumber]
    split
    · exact Nat.le_of_succ_le (ih (start + 1))
    · exact Nat.le_refl start

/-- The search passes over names in use only. -/
theorem uses_of_lt_freeNumber {fuel start k : Nat} (hstart : start ≤ k)
    (hk : k < a.freeNumber name fuel start) : a.uses (numbered name k) = true := by
  induction fuel generalizing start with
  | zero => exact absurd hk (Nat.not_lt.2 hstart)
  | succ fuel ih =>
    rw [freeNumber] at hk
    split at hk
    · next hused =>
      rcases Nat.eq_or_lt_of_le hstart with rfl | hlt
      · exact hused
      · exact ih hlt hk
    · exact absurd hk (Nat.not_lt.2 hstart)

/-! ## Counters -/

/-- Every name in use has a number, and all numbers up to it belong to names in use. -/
structure IsCurrent : Prop where
  pos : ∀ {name last}, a.count? name = some last → 1 ≤ last
  tried : ∀ {name last k}, a.count? name = some last → 2 ≤ k → k ≤ last →
    a.uses (numbered name k) = true

theorem count?_ofTaken {taken : List String} {name : String} {last : Nat}
    (h : (ofTaken taken).count? name = some last) : last = 1 := by
  induction taken with
  | nil => cases h
  | cons other taken ih =>
    rw [count?, ofTaken, List.map_cons, List.lookup_cons] at h
    split at h
    · exact (Option.some.inj h).symm
    · exact ih h

theorem isCurrent_ofTaken (taken : List String) : (ofTaken taken).IsCurrent where
  pos h := Nat.le_of_eq (count?_ofTaken h).symm
  tried h hk hlast := by
    have := count?_ofTaken h
    omega

variable {a name}

/-- After a call, a name has the number it had, the number one if it is the name handed out, or,
if it is the name wanted, the number with which that was handed out. -/
theorem count?_allocate {n : String} {last : Nat}
    (h : (a.allocate name).2.count? n = some last) :
    a.count? n = some last ∨ last = 1 ∨
      ∃ tried, a.count? name = some tried ∧ n = name ∧
        last = a.freeNumber name a.seen.length (tried + 1) ∧
        (a.allocate name).1 = numbered name last := by
  cases hcount : a.count? name with
  | none =>
    rw [allocate_of_none hcount, count?, List.lookup_cons] at h
    split at h
    · exact Or.inr (Or.inl (Option.some.inj h).symm)
    · exact Or.inl h
  | some tried =>
    rw [allocate_of_some hcount] at h ⊢
    rw [count?, List.lookup_cons, List.lookup_cons] at h
    split at h
    · exact Or.inr (Or.inl (Option.some.inj h).symm)
    split at h
    · next heq =>
      obtain rfl := Option.some.inj h
      exact Or.inr (Or.inr ⟨tried, rfl, eq_of_beq heq, rfl, rfl⟩)
    · exact Or.inl h

/-- A call tries the numbers from the last one on, so none below the new one is free. -/
theorem isCurrent_allocate (h : a.IsCurrent) (name : String) :
    (a.allocate name).2.IsCurrent where
  pos hlast := by
    rcases count?_allocate hlast with hlast | rfl | ⟨tried, -, -, rfl, -⟩
    · exact h.pos hlast
    · exact Nat.le_refl 1
    · exact Nat.le_trans (Nat.le_add_left 1 tried) (le_freeNumber a _ _ _)
  tried {n last k} hlast hk hle := by
    rw [uses_allocate]
    rcases count?_allocate hlast with hlast | rfl | ⟨tried, htried, rfl, rfl, hgiven⟩
    · exact Or.inr (h.tried hlast hk hle)
    · omega
    · rw [hgiven]
      -- The search has passed over the numbers above the one tried last, and those up to it had
      -- names in use before.
      rcases Nat.eq_or_lt_of_le hle with rfl | hlt
      · exact Or.inl rfl
      rcases Nat.lt_or_ge tried k with hnew | hold
      · exact Or.inr (uses_of_lt_freeNumber a _ hnew hlt)
      · exact Or.inr (h.tried htried hk hold)

/-! ## Calls -/

/-- A call gives the next name by the rule, for the names in use. -/
theorem isNext_allocate (h : a.IsCurrent) {used : List String}
    (hused : ∀ n, a.uses n = true ↔ n ∈ used) (name : String) :
    IsNext used name (a.allocate name).1 := by
  have hfresh : (a.allocate name).1 ∉ used := by
    rw [← hused, allocate_fresh]
    exact Bool.false_ne_true
  cases hcount : a.count? name with
  | none =>
    have hgiven : (a.allocate name).1 = name := by rw [allocate_of_none hcount]
    exact Or.inl ⟨hgiven ▸ hfresh, hgiven⟩
  | some tried =>
    have hname : name ∈ used := (hused name).1 (by rw [uses, hcount]; rfl)
    have hgiven : (a.allocate name).1 =
        numbered name (a.freeNumber name a.seen.length (tried + 1)) := by
      rw [allocate_of_some hcount]
    have hleast : IsLeastNumber used name (a.freeNumber name a.seen.length (tried + 1)) := by
      refine ⟨?_, hgiven ▸ hfresh, fun j hj hlt => (hused _).1 ?_⟩
      · have hpos := h.pos hcount
        have hle := le_freeNumber a name a.seen.length (tried + 1)
        omega
      · rcases Nat.lt_or_ge tried j with hnew | hold
        · exact uses_of_lt_freeNumber a name hnew hlt
        · exact h.tried hcount hj hold
    exact Or.inr ⟨hname, _, hleast.le_length hname, hleast, hgiven⟩

/-- A run of calls follows the rule. -/
theorem gives_allocateAll (h : a.IsCurrent) {used : List String}
    (hused : ∀ n, a.uses n = true ↔ n ∈ used) (wanted : List String) :
    Gives used wanted (a.allocateAll wanted) := by
  induction wanted generalizing a used with
  | nil => exact Gives.nil
  | cons name wanted ih =>
    rw [allocateAll_cons]
    refine Gives.cons (isNext_allocate h hused name) (ih (isCurrent_allocate h name) ?_)
    intro n
    rw [uses_allocate, hused, List.mem_append, List.mem_singleton, or_comm]

/-- The names handed out by a run of calls follow the rule of the least unused number, which alone
they can follow. They differ from each other and from all taken names, and they are the same
whatever the order in which the taken names are given. -/
theorem allocateAll_least (taken wanted : List String) :
    Gives taken wanted ((ofTaken taken).allocateAll wanted) ∧
      (∀ given, Gives taken wanted given → given = (ofTaken taken).allocateAll wanted) ∧
      ((ofTaken taken).allocateAll wanted).Nodup ∧
      (∀ n ∈ (ofTaken taken).allocateAll wanted, n ∉ taken) ∧
      ∀ other : List String, (∀ n, n ∈ other ↔ n ∈ taken) →
        (ofTaken other).allocateAll wanted = (ofTaken taken).allocateAll wanted := by
  have hgives (names : List String) : Gives names wanted ((ofTaken names).allocateAll wanted) :=
    gives_allocateAll (isCurrent_ofTaken names) (fun n => uses_ofTaken n names) wanted
  obtain ⟨hnodup, hfresh⟩ := allocateAll_fresh (ofTaken taken) wanted
  refine ⟨hgives taken, ?_, hnodup, ?_, ?_⟩
  · intro given hgiven
    exact hgiven.unique (fun _ => Iff.rfl) (hgives taken)
  · intro n hn hmem
    have hunused := hfresh n hn
    rw [(uses_ofTaken n taken).2 hmem] at hunused
    cases hunused
  · intro other hother
    exact (hgives other).unique hother (hgives taken)

theorem allocateAll_least_sampleGet :
    (∀ n, n ∈ ["get_2", "get"] ↔ n ∈ ["get", "get_2"]) ∧
      (ofTaken ["get_2", "get"]).allocateAll ["get", "get_3", "get", "get_2", "list"] =
        ["get_3", "get_3_2", "get_4", "get_2_2", "list"] := by
  have hsame : ∀ n, n ∈ ["get_2", "get"] ↔ n ∈ ["get", "get_2"] := by
    intro n
    rw [List.mem_pair, List.mem_pair, or_comm]
  obtain ⟨-, -, -, -, horder⟩ :=
    allocateAll_least ["get", "get_2"] ["get", "get_3", "get", "get_2", "list"]
  refine ⟨hsame, (horder _ hsame).trans ?_⟩
  decide

end ApiDiscovery.Naming.Allocator
