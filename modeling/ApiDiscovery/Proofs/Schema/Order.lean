import ApiDiscovery.Proofs.Schema.Argument
import Mathlib.Data.List.Basic

/-!
# The order of arguments

The names of arguments come from one list of candidates, the names that a method lists and then the
other declared ones: first the candidates that are required, then the others (`Argument.order_eq`).
So a declared name comes as often as it is listed, and once if it is not (`count_candidates`), and
which of two names comes first is what their kind, the list and the declaration say
(`idxOf_candidates_of_listed`, `idxOf_candidates_iff`).
-/

namespace ApiDiscovery.Schema.Argument

open Outcome

/-! ## Places in a list -/

section Places

variable {α : Type} [DecidableEq α] {a b : α}

/-- What is left out of a list does not change which of two items that are kept comes first. -/
theorem idxOf_filter_lt_iff {keeps : α → Bool} (ha : keeps a = true) (hb : keeps b = true)
    (l : List α) : (l.filter keeps).idxOf a < (l.filter keeps).idxOf b ↔ l.idxOf a < l.idxOf b := by
  induction l with
  | nil => exact Iff.rfl
  | cons c l ih =>
    by_cases hca : c = a
    · subst hca
      by_cases hab : c = b
      · subst hab
        simp
      · simp [ha, List.idxOf_cons_ne _ hab]
    · by_cases hcb : c = b
      · subst hcb
        simp [hb]
      · by_cases hc : keeps c = true
        · rw [List.filter_cons_of_pos hc, List.idxOf_cons_ne _ hca, List.idxOf_cons_ne _ hcb,
            List.idxOf_cons_ne _ hca, List.idxOf_cons_ne _ hcb, Nat.succ_lt_succ_iff,
            Nat.succ_lt_succ_iff]
          exact ih
        · rw [List.filter_cons_of_neg hc, List.idxOf_cons_ne _ hca, List.idxOf_cons_ne _ hcb,
            Nat.succ_lt_succ_iff]
          exact ih

theorem idxOf_append_lt {l m : List α} (ha : a ∈ l) (hb : b ∉ l) :
    (l ++ m).idxOf a < (l ++ m).idxOf b := by
  rw [List.idxOf_append_of_mem ha, List.idxOf_append_of_notMem hb]
  exact Nat.lt_of_lt_of_le (List.idxOf_lt_length_iff.2 ha) (Nat.le_add_right _ _)

theorem idxOf_append_lt_iff_left {l m : List α} (ha : a ∈ l) (hb : b ∈ l) :
    (l ++ m).idxOf a < (l ++ m).idxOf b ↔ l.idxOf a < l.idxOf b := by
  rw [List.idxOf_append_of_mem ha, List.idxOf_append_of_mem hb]

theorem idxOf_append_lt_iff_right {l m : List α} (ha : a ∉ l) (hb : b ∉ l) :
    (l ++ m).idxOf a < (l ++ m).idxOf b ↔ m.idxOf a < m.idxOf b := by
  rw [List.idxOf_append_of_notMem ha, List.idxOf_append_of_notMem hb, Nat.add_lt_add_iff_left]

/-- In a list with the items that pass a test before the others, two items that do alike in the test
come as they do in the list itself. -/
theorem idxOf_partition_lt_iff {test : α → Bool} {l : List α} (ha : a ∈ l) (hb : b ∈ l)
    (h : test a = test b) :
    (l.filter test ++ l.filter fun c => !test c).idxOf a <
        (l.filter test ++ l.filter fun c => !test c).idxOf b ↔ l.idxOf a < l.idxOf b := by
  by_cases hpass : test a = true
  · have hpass' : test b = true := h ▸ hpass
    rw [idxOf_append_lt_iff_left (List.mem_filter.2 ⟨ha, hpass⟩) (List.mem_filter.2 ⟨hb, hpass'⟩)]
    exact idxOf_filter_lt_iff hpass hpass' l
  · have hpass' : ¬test b = true := h ▸ hpass
    rw [idxOf_append_lt_iff_right (fun hmem => hpass (List.mem_filter.1 hmem).2)
      (fun hmem => hpass' (List.mem_filter.1 hmem).2)]
    exact idxOf_filter_lt_iff (by simpa using hpass) (by simpa using hpass') l

/-- A list in which no item that passes a test comes after one that does not. -/
theorem filter_append_of_pairwise {β : Type} {test : β → Bool} {l : List β}
    (h : l.Pairwise fun c d => test d = true → test c = true) :
    (l.filter test ++ l.filter fun c => !test c) = l := by
  induction l with
  | nil => rfl
  | cons c l ih =>
    obtain ⟨hfirst, hrest⟩ := List.pairwise_cons.1 h
    by_cases hc : test c = true
    · rw [List.filter_cons_of_pos hc, List.filter_cons_of_neg (by simp [hc]), List.cons_append,
        ih hrest]
    · have hnone : l.filter test = [] := by
        refine List.filter_eq_nil_iff.2 fun d hd hpass => ?_
        exact hc (hfirst d hd hpass)
      have hall := ih hrest
      rw [hnone, List.nil_append] at hall
      rw [List.filter_cons_of_neg hc, hnone, List.nil_append,
        List.filter_cons_of_pos (by simpa using hc), hall]

end Places

/-! ## Candidates -/

/-- The names in a list of values. -/
def namesIn (wanted : List Json) : List String :=
  wanted.filterMap fun value =>
    match value with
    | .str name => some name
    | _ => none

/-- The declared names, the listed ones before the others. -/
def candidates (declared : Json.Members) (listed : List String) : List String :=
  listed.filter (Ordered.has declared) ++
    (Json.keys declared).filter fun name => !listed.contains name

/-- The parameter called `name` is required, as far as it is declared as an object. -/
def requires (declared : Json.Members) (name : String) : Bool :=
  (isRequired declared name).toOption.getD false

section Candidates

variable {declared : Json.Members} {wanted : List Json} {listed : List String}

theorem mem_filter_has {name : String} :
    name ∈ listed.filter (Ordered.has declared) ↔ name ∈ listed ∧ name ∈ Json.keys declared := by
  rw [List.mem_filter, Ordered.has_iff]
  rfl

theorem mem_filter_unlisted {name : String} :
    (name ∈ (Json.keys declared).filter fun name => !listed.contains name) ↔
      name ∈ Json.keys declared ∧ name ∉ listed := by
  simp [List.mem_filter]

theorem mem_candidates {name : String} :
    name ∈ candidates declared listed ↔ name ∈ Json.keys declared := by
  rw [candidates, List.mem_append, mem_filter_has, mem_filter_unlisted]
  by_cases hlisted : name ∈ listed
  · simp [hlisted]
  · simp [hlisted]

/-- A declared name is a candidate as often as it is listed, but at least once. -/
theorem count_candidates (hdistinct : (Json.keys declared).Nodup) (name : String) :
    (candidates declared listed).count name =
      if name ∈ Json.keys declared then max 1 (listed.count name) else 0 := by
  split
  · next hdeclared =>
    have hhas : Ordered.has declared name = true := Ordered.has_iff.2 hdeclared
    rw [candidates, List.count_append, List.count_filter hhas]
    -- A name comes from one of the two parts only.
    by_cases hlisted : name ∈ listed
    · have hrest : name ∉ (Json.keys declared).filter fun name => !listed.contains name :=
        fun hmem => (mem_filter_unlisted.1 hmem).2 hlisted
      have hpos := List.count_pos_iff.2 hlisted
      rw [List.count_eq_zero.2 hrest]
      omega
    · have hrest : ((Json.keys declared).filter fun name => !listed.contains name).count name =
          (Json.keys declared).count name := List.count_filter (by simpa using hlisted)
      rw [hrest, List.count_eq_one_of_mem hdistinct hdeclared, List.count_eq_zero.2 hlisted]
      rfl
  · next hdeclared => exact List.count_eq_zero.2 fun hmem => hdeclared (mem_candidates.1 hmem)

/-- A listed name comes before one that is not. -/
theorem idxOf_candidates_of_listed {a b : String} (ha : a ∈ Json.keys declared)
    (hlisted : a ∈ listed) (hother : b ∉ listed) :
    (candidates declared listed).idxOf a < (candidates declared listed).idxOf b :=
  idxOf_append_lt (mem_filter_has.2 ⟨hlisted, ha⟩) fun hmem => hother (mem_filter_has.1 hmem).1

/-- Two listed names come as they are listed, and two others as they are declared. -/
theorem idxOf_candidates_iff (listed : List String) {a b : String} (ha : a ∈ Json.keys declared)
    (hb : b ∈ Json.keys declared) :
    (a ∈ listed → b ∈ listed →
        ((candidates declared listed).idxOf a < (candidates declared listed).idxOf b ↔
          listed.idxOf a < listed.idxOf b)) ∧
      (a ∉ listed → b ∉ listed →
        ((candidates declared listed).idxOf a < (candidates declared listed).idxOf b ↔
          (Json.keys declared).idxOf a < (Json.keys declared).idxOf b)) := by
  constructor
  · intro halisted hblisted
    rw [candidates, idxOf_append_lt_iff_left (mem_filter_has.2 ⟨halisted, ha⟩)
      (mem_filter_has.2 ⟨hblisted, hb⟩)]
    exact idxOf_filter_lt_iff (Ordered.has_iff.2 ha) (Ordered.has_iff.2 hb) listed
  · intro hafree hbfree
    rw [candidates, idxOf_append_lt_iff_right (fun hmem => hafree (mem_filter_has.1 hmem).1)
      (fun hmem => hbfree (mem_filter_has.1 hmem).1)]
    exact idxOf_filter_lt_iff (by simpa using hafree) (by simpa using hbfree) (Json.keys declared)

/-! ## Names in order -/

theorem listed_eq {first : List String} (h : Argument.listed declared wanted = .ok first) :
    first = (namesIn wanted).filter (Ordered.has declared) := by
  fun_induction Argument.listed declared wanted generalizing first with
  | case1 =>
    cases h
    rfl
  | case2 name rest ih =>
    simp only [bind_eq_ok, pure_eq_ok] at h
    obtain ⟨others, hothers, rfl⟩ := h
    obtain rfl := ih hothers
    have hnames : namesIn (.str name :: rest) = name :: namesIn rest := rfl
    rw [hnames, List.filter_cons]
    rfl
  | case3 other rest hother _ ih =>
    rw [ih h]
    cases other with
    | str name => exact absurd rfl (hother name)
    | _ => rfl
  | case4 => cases h

theorem marked_eq {names : List String} {marks : List (String × Bool)}
    (h : marked declared names = .ok marks) :
    marks = names.map fun name => (name, requires declared name) := by
  induction names generalizing marks with
  | nil =>
    cases h
    rfl
  | cons name names ih =>
    simp only [marked, bind_eq_ok, pure_eq_ok] at h
    obtain ⟨required, hrequired, others, hothers, rfl⟩ := h
    have hmark : requires declared name = required := by
      rw [requires, hrequired]
      rfl
    rw [ih hothers, List.map_cons, hmark]

theorem requiredFirst_marks (names : List String) (mark : String → Bool) :
    requiredFirst (names.map fun name => (name, mark name)) =
      names.filter mark ++ names.filter fun name => !mark name := by
  simp only [requiredFirst, List.filter_map, List.map_append, List.map_map]
  rw [show (Prod.fst ∘ fun name => (name, mark name)) = id from rfl, List.map_id, List.map_id]
  rfl

/-- The names in order are the candidates, those that are required before the others. -/
theorem order_eq {names : List String} (h : order declared wanted = .ok names) :
    names = (candidates declared (namesIn wanted)).filter (requires declared) ++
      (candidates declared (namesIn wanted)).filter fun name => !requires declared name := by
  simp only [order, bind_eq_ok, pure_eq_ok] at h
  obtain ⟨first, hfirst, markedRest, hrest, markedFirst, hmarked, rfl⟩ := h
  obtain rfl := listed_eq hfirst
  -- Whether the listed names are taken before or after the undeclared ones are left out does not
  -- matter for a declared name.
  have hunlisted : ((Json.keys declared).filter fun name =>
        !((namesIn wanted).filter (Ordered.has declared)).contains name) =
      (Json.keys declared).filter fun name => !(namesIn wanted).contains name := by
    refine List.filter_congr fun name hname => ?_
    have hcontains : ((namesIn wanted).filter (Ordered.has declared)).contains name =
        (namesIn wanted).contains name := by
      rw [Bool.eq_iff_iff, List.contains_iff_mem, List.contains_iff_mem, mem_filter_has]
      exact and_iff_left hname
    rw [hcontains]
  rw [hunlisted] at hrest
  rw [marked_eq hmarked, marked_eq hrest, ← List.map_append, requiredFirst_marks, candidates]

end Candidates

/-! ## Arguments of a method -/

/-- The parameters that a method declares, if it has an object of them. -/
def declaredIn (method : Json.Members) : Json.Members :=
  (Json.objectAt method "parameters").toOption.getD []

/-- The names that a method lists as the order of its parameters. -/
def listedIn (method : Json.Members) : List String :=
  namesIn ((Json.getOr method "parameterOrder" (.arr [])).elements.toOption.getD [])

/-- The arguments have the names of the candidates of a method, those that are required before the
others, and each is required if its parameter is. -/
structure IsInOrder (method : Json.Members) (arguments : List Argument) : Prop where
  names : arguments.map Argument.name =
    (candidates (declaredIn method) (listedIn method)).filter (requires (declaredIn method)) ++
      (candidates (declaredIn method) (listedIn method)).filter
        fun name => !requires (declaredIn method) name
  required : ∀ a ∈ arguments, a.required = requires (declaredIn method) a.name

section Method

variable {body : Json} {method : Json.Members} {arguments : List Argument}

theorem isInOrder_nil (h : declaredIn method = []) : IsInOrder method [] := by
  have hnone : candidates (declaredIn method) (listedIn method) = [] := by
    rw [h, List.eq_nil_iff_forall_not_mem]
    exact fun name hname => absurd (mem_candidates.1 hname) List.not_mem_nil
  constructor
  · rw [hnone]
    rfl
  · intro a ha
    exact absurd ha List.not_mem_nil

theorem isInOrder_ofMethod (h : ofMethod body method = .ok arguments) :
    IsInOrder method arguments := by
  simp only [ofMethod, bind_eq_ok] at h
  obtain ⟨wanted, hwanted, h⟩ := h
  split at h
  · next declared hobject =>
    have hdeclared : declaredIn method = declared := by
      rw [declaredIn, Json.objectAt, hobject]
      rfl
    have hlisted : listedIn method = namesIn wanted := by
      rw [listedIn, hwanted]
      rfl
    simp only [bind_eq_ok] at h
    obtain ⟨names, hnames, harguments⟩ := h
    obtain ⟨hall, hmade⟩ := ofNames_eq_ok harguments
    constructor
    · rw [hdeclared, hlisted, hall]
      exact order_eq hnames
    · intro a ha
      obtain ⟨members, -, hmembers, -, hrequired, -⟩ := ofParameter_eq_ok (hmade a ha)
      rw [hdeclared, hrequired, requires, isRequired, hmembers]
      rfl
  -- What is no object declares nothing, and the method has no arguments then.
  · next items hitems =>
    simp only [bind_eq_ok, pure_eq_ok] at h
    obtain ⟨-, -, rfl⟩ := h
    apply isInOrder_nil
    rw [declaredIn, Json.objectAt, hitems]
    rfl
  · next text htext =>
    simp only [bind_eq_ok, pure_eq_ok] at h
    obtain ⟨-, -, rfl⟩ := h
    apply isInOrder_nil
    rw [declaredIn, Json.objectAt, htext]
    rfl
  · cases h

namespace IsInOrder

theorem perm (h : IsInOrder method arguments) :
    (arguments.map Argument.name).Perm (candidates (declaredIn method) (listedIn method)) := by
  rw [h.names]
  exact List.filter_append_perm (requires (declaredIn method)) _

theorem mem_keys (h : IsInOrder method arguments) {a : Argument} (ha : a ∈ arguments) :
    a.name ∈ Json.keys (declaredIn method) :=
  mem_candidates.1 (h.perm.mem_iff.1 (List.mem_map_of_mem ha))

/-- Of two arguments that are both required, or both not, the one comes first whose name comes first
among the candidates. -/
theorem idxOf_lt_iff (h : IsInOrder method arguments) {a b : Argument} (ha : a ∈ arguments)
    (hb : b ∈ arguments) (hkind : a.required = b.required) :
    (arguments.map Argument.name).idxOf a.name < (arguments.map Argument.name).idxOf b.name ↔
      (candidates (declaredIn method) (listedIn method)).idxOf a.name <
        (candidates (declaredIn method) (listedIn method)).idxOf b.name := by
  rw [h.required a ha, h.required b hb] at hkind
  rw [h.names]
  exact idxOf_partition_lt_iff (mem_candidates.2 (h.mem_keys ha))
    (mem_candidates.2 (h.mem_keys hb)) hkind

/-- A required argument comes before one that is not. -/
theorem pairwise (h : IsInOrder method arguments) :
    arguments.Pairwise fun a b => b.required = true → a.required = true := by
  obtain ⟨needed, others, rfl, hneeded, hothers⟩ := List.map_eq_append_iff.1 h.names
  have hrequired : ∀ a ∈ needed, a.required = true := by
    intro a ha
    have hmem := List.mem_map_of_mem (f := Argument.name) ha
    rw [hneeded] at hmem
    rw [h.required a (List.mem_append_left _ ha)]
    exact (List.mem_filter.1 hmem).2
  have hoptional : ∀ b ∈ others, ¬b.required = true := by
    intro b hb
    have hmem := List.mem_map_of_mem (f := Argument.name) hb
    rw [hothers] at hmem
    rw [h.required b (List.mem_append_right _ hb)]
    simpa using (List.mem_filter.1 hmem).2
  rw [List.pairwise_append]
  refine ⟨?_, ?_, fun a ha _ _ _ => hrequired a ha⟩
  · exact List.pairwise_of_forall_mem_list fun a ha _ _ _ => hrequired a ha
  · exact List.pairwise_of_forall_mem_list fun _ _ b hb hb' => absurd hb' (hoptional b hb)

end IsInOrder
end Method
end ApiDiscovery.Schema.Argument
