import ApiDiscovery.Proofs.Json.Keys
import ApiDiscovery.Proofs.Outcome
import ApiDiscovery.Schema.Argument

/-!
# The parameters that arguments are for

A method has arguments for the declared parameters and no others, in whatever order they come
(`Argument.mem_order`), and each is made from what is declared under its name
(`Argument.ofMethod_eq_ok`).
-/

namespace ApiDiscovery.Schema.Argument

open Outcome

/-! ## Order -/

theorem listed_subset {declared : Json.Members} {wanted : List Json} {names : List String}
    (h : listed declared wanted = .ok names) : ∀ name ∈ names, name ∈ Json.keys declared := by
  fun_induction listed declared wanted generalizing names with
  | case1 =>
    cases h
    intro name hname
    exact absurd hname List.not_mem_nil
  | case2 first rest ih =>
    simp only [bind_eq_ok, pure_eq_ok] at h
    obtain ⟨others, hothers, rfl⟩ := h
    intro name hname
    split at hname
    · next hdeclared =>
      rcases List.mem_cons.1 hname with rfl | hname
      · exact Ordered.has_iff.1 hdeclared
      · exact ih hothers name hname
    · exact ih hothers name hname
  | case3 other rest _ _ ih => exact ih h
  | case4 => cases h

theorem marked_names {declared : Json.Members} {names : List String}
    {marks : List (String × Bool)} (h : marked declared names = .ok marks) :
    marks.map Prod.fst = names := by
  induction names generalizing marks with
  | nil =>
    cases h
    rfl
  | cons name names ih =>
    simp only [marked, bind_eq_ok, pure_eq_ok] at h
    obtain ⟨required, -, others, hothers, rfl⟩ := h
    rw [List.map_cons, ih hothers]

/-- Putting the required names first neither adds nor drops any. -/
theorem requiredFirst_perm (marks : List (String × Bool)) :
    (requiredFirst marks).Perm (marks.map Prod.fst) := by
  rw [requiredFirst]
  exact (List.filter_append_perm (fun p => p.2) marks).map Prod.fst

/-- The names in order are the declared ones. -/
theorem mem_order {declared : Json.Members} {wanted : List Json} {names : List String}
    (h : order declared wanted = .ok names) (name : String) :
    name ∈ names ↔ name ∈ Json.keys declared := by
  simp only [order, bind_eq_ok, pure_eq_ok] at h
  obtain ⟨first, hfirst, markedRest, hrest, markedFirst, hmarked, rfl⟩ := h
  rw [(requiredFirst_perm _).mem_iff, List.map_append, marked_names hrest, marked_names hmarked,
    List.mem_append, List.mem_filter]
  constructor
  · rintro (hname | ⟨hname, -⟩)
    · exact listed_subset hfirst name hname
    · exact hname
  · intro hname
    by_cases hlisted : name ∈ first
    · exact Or.inl hlisted
    · exact Or.inr ⟨hname, by simpa using hlisted⟩

/-! ## Arguments -/

theorem ofParameter_eq_ok {body : Json} {name : String} {declared : Json} {a : Argument}
    (h : ofParameter body name declared = .ok a) :
    ∃ members details, declared.asObject = .ok members ∧ a.name = name ∧
      a.required = Json.isGivenAt members "required" ∧ a.details = some details ∧
      details.location =
        (Json.firstGiven members ["location", "parameterType"]).getD (.str "query") ∧
      details.pattern = Json.getOr members "pattern" .null ∧
      details.repeated = Json.isGivenAt members "repeated" := by
  simp only [ofParameter, bind_eq_ok, pure_eq_ok] at h
  obtain ⟨members, hmembers, valueType, -, description, -, rfl⟩ := h
  exact ⟨members, _, hmembers, rfl, rfl, rfl, rfl, rfl, rfl⟩

theorem ofNames_eq_ok {body : Json} {declared : Json.Members} {names : List String}
    {arguments : List Argument} (h : ofNames body declared names = .ok arguments) :
    arguments.map Argument.name = names ∧
      ∀ a ∈ arguments, ofParameter body a.name (Json.getOr declared a.name .null) = .ok a := by
  induction names generalizing arguments with
  | nil =>
    cases h
    exact ⟨rfl, fun a ha => absurd ha List.not_mem_nil⟩
  | cons name names ih =>
    simp only [ofNames, bind_eq_ok, pure_eq_ok] at h
    obtain ⟨a, ha, others, hothers, rfl⟩ := h
    obtain ⟨-, -, -, hname, -⟩ := ofParameter_eq_ok ha
    obtain ⟨hnames, hmade⟩ := ih hothers
    refine ⟨?_, List.forall_mem_cons.2 ⟨?_, hmade⟩⟩
    · rw [List.map_cons, hname, hnames]
    · rw [hname]
      exact ha

/-- Every argument of a method with declared parameters is made from the one of its name, and every
declared parameter has an argument. -/
theorem ofMethod_eq_ok {body : Json} {method declared : Json.Members} {arguments : List Argument}
    (hdeclared : Json.objectAt method "parameters" = .ok declared)
    (h : ofMethod body method = .ok arguments) :
    (∀ name, name ∈ arguments.map Argument.name ↔ name ∈ Json.keys declared) ∧
      ∀ a ∈ arguments, ofParameter body a.name (Json.getOr declared a.name .null) = .ok a := by
  simp only [ofMethod, Json.getOr_of_objectAt hdeclared, bind_eq_ok] at h
  obtain ⟨wanted, -, names, hnames, harguments⟩ := h
  obtain ⟨hall, hmade⟩ := ofNames_eq_ok harguments
  refine ⟨fun name => ?_, hmade⟩
  rw [hall]
  exact mem_order hnames name

/-- Every argument of a method is made from something that is declared under its name. -/
theorem exists_ofParameter {body : Json} {method : Json.Members} {arguments : List Argument}
    (h : ofMethod body method = .ok arguments) :
    ∀ a ∈ arguments, ∃ declared, ofParameter body a.name declared = .ok a := by
  simp only [ofMethod, bind_eq_ok] at h
  obtain ⟨wanted, -, h⟩ := h
  intro a ha
  split at h
  · next declared _ =>
    simp only [bind_eq_ok] at h
    obtain ⟨names, -, harguments⟩ := h
    exact ⟨_, (ofNames_eq_ok harguments).2 a ha⟩
  -- What is no object gives a method no arguments.
  · simp only [bind_eq_ok, pure_eq_ok] at h
    obtain ⟨-, -, rfl⟩ := h
    exact absurd ha List.not_mem_nil
  · simp only [bind_eq_ok, pure_eq_ok] at h
    obtain ⟨-, -, rfl⟩ := h
    exact absurd ha List.not_mem_nil
  · cases h

/-- An argument is called after its parameter until a signature gives it a name of its own. -/
theorem argument_of_ofMethod {body : Json} {method : Json.Members} {arguments : List Argument}
    (h : ofMethod body method = .ok arguments) :
    ∀ a ∈ arguments, a.argument = Naming.argument a.name := by
  intro a ha
  obtain ⟨declared, hdeclared⟩ := exists_ofParameter h a ha
  simp only [ofParameter, bind_eq_ok, pure_eq_ok] at hdeclared
  obtain ⟨members, -, valueType, -, description, -, hmade⟩ := hdeclared
  rw [← hmade]

end ApiDiscovery.Schema.Argument
