import ApiDiscovery.Proofs.Naming.Keyword
import ApiDiscovery.Proofs.Schema.Argument
import ApiDiscovery.Proofs.Source.Method

/-!
# Names of arguments

The arguments of a generated method have distinct names that can stand in a signature and that its
body does not use (`ofDeclared_isUsable`). Nothing but the name of an argument is changed to reach
this (`map_called_renamed`), and an argument whose own name is free by the time it is its turn keeps
it (`argument_of_renamed`).
-/

namespace ApiDiscovery.Source

open Naming (Allocator IsUsable)
open Outcome
open Schema (Argument)

/-- The argument with the name that it has after its parameter. -/
def called (a : Argument) : Argument := { a with argument := Naming.argument a.name }

theorem called_eq {a : Argument} (h : a.argument = Naming.argument a.name) (given : String) :
    called { a with argument := given } = a := by
  obtain ⟨name, argument, annotation, required, details⟩ := a
  dsimp only at h
  rw [called, h]

/-! ## Renaming -/

theorem map_argument_renamed (names : Allocator) (arguments : List Argument) :
    (renamed names arguments).map Argument.argument =
      names.allocateAll (arguments.map Argument.argument) := by
  induction arguments generalizing names with
  | nil => rfl
  | cons a arguments ih =>
    rw [List.map_cons, Allocator.allocateAll_cons, ← ih]
    rfl

/-- Renaming changes the names of arguments and nothing else, and keeps their order. -/
theorem map_called_renamed {names : Allocator} {arguments : List Argument}
    (h : ∀ a ∈ arguments, a.argument = Naming.argument a.name) :
    (renamed names arguments).map called = arguments := by
  induction arguments generalizing names with
  | nil => rfl
  | cons a arguments ih =>
    obtain ⟨ha, hrest⟩ := List.forall_mem_cons.1 h
    rw [renamed, List.map_cons, ih hrest, called_eq ha]

/-- An argument keeps a name that is not in use and that no argument before it has got. -/
theorem argument_of_renamed {names : Allocator} {arguments earlier later : List Argument}
    {a : Argument} (hown : ∀ b ∈ arguments, b.argument = Naming.argument b.name)
    (h : renamed names arguments = earlier ++ a :: later)
    (hfree : names.uses (Naming.argument a.name) = false)
    (hearlier : Naming.argument a.name ∉ earlier.map Argument.argument) :
    a.argument = Naming.argument a.name := by
  induction earlier generalizing names arguments with
  | nil =>
    cases arguments with
    | nil => cases h
    | cons b arguments =>
      rw [renamed, List.nil_append, List.cons.injEq] at h
      obtain ⟨rfl, -⟩ := h
      have hb := hown b List.mem_cons_self
      show (names.allocate b.argument).1 = Naming.argument b.name
      rw [hb]
      exact Allocator.allocate_of_free names hfree
  | cons first earlier ih =>
    cases arguments with
    | nil => cases h
    | cons b arguments =>
      rw [renamed, List.cons_append, List.cons.injEq] at h
      obtain ⟨rfl, hrest⟩ := h
      rw [List.map_cons, List.mem_cons, not_or] at hearlier
      refine ih (List.forall_mem_cons.1 hown).2 hrest ?_ hearlier.2
      -- The argument before it took one name more, which is another one.
      rw [← Bool.not_eq_true, Allocator.uses_allocate, not_or, Bool.not_eq_true]
      exact ⟨hearlier.1, hfree⟩

/-! ## Generated methods -/

namespace Method

variable {body declared : Json} {path discoveryName name : String} {m : Method}

theorem arguments_of_ofDeclared
    (h : ofDeclared body path discoveryName declared name = .ok m) :
    ∃ members arguments, declared.asObject = .ok members ∧
      Argument.ofMethod body members = .ok arguments ∧
      m.arguments = renamed (Allocator.ofTaken localNames) arguments := by
  simp only [ofDeclared, argumentsOf, bind_eq_ok, pure_eq_ok, ofDiscovery_eq_ok] at h
  obtain ⟨members, hmembers, -, ⟨arguments, harguments, rfl⟩, -, -, -, -, -, -, rfl⟩ := h
  exact ⟨members, arguments, hmembers, harguments, rfl⟩

theorem uses_localNames (name : String) :
    (Allocator.ofTaken localNames).uses name = false ↔ name ∉ localNames := by
  rw [← Bool.not_eq_true, Allocator.uses_ofTaken]

/-- The names of the arguments of a method are distinct, each can stand for an argument, and none is
used in the body of the method. But for these names the arguments are those that are read, in the
same order. An argument has the name that it has after its parameter if that name is neither used in
the body nor that of an argument before it. -/
theorem ofDeclared_isUsable (h : ofDeclared body path discoveryName declared name = .ok m) :
    (m.arguments.map Argument.argument).Nodup ∧
      (∀ a ∈ m.arguments, IsUsable a.argument ∧ a.argument ∉ localNames) ∧
      (∃ members, declared.asObject = .ok members ∧
        Argument.ofMethod body members = .ok (m.arguments.map called)) ∧
      ∀ earlier a later, m.arguments = earlier ++ a :: later →
        Naming.argument a.name ∉ localNames →
          Naming.argument a.name ∉ earlier.map Argument.argument →
            a.argument = Naming.argument a.name := by
  obtain ⟨members, arguments, hmembers, hread, hrenamed⟩ := arguments_of_ofDeclared h
  have hown := Argument.argument_of_ofMethod hread
  have hnames := map_argument_renamed (Allocator.ofTaken localNames) arguments
  rw [← hrenamed] at hnames
  obtain ⟨hnodup, hfresh⟩ := Allocator.allocateAll_fresh (Allocator.ofTaken localNames)
    (arguments.map Argument.argument)
  have hwanted : ∀ wanted ∈ arguments.map Argument.argument, IsUsable wanted := by
    intro wanted hmem
    obtain ⟨a, ha, rfl⟩ := List.mem_map.1 hmem
    rw [hown a ha]
    exact Naming.isUsable_argument a.name
  refine ⟨by rwa [hnames], fun a ha => ?_, ⟨members, hmembers, ?_⟩, ?_⟩
  · have hmem := List.mem_map_of_mem (f := Argument.argument) ha
    rw [hnames] at hmem
    exact ⟨Naming.isUsable_allocateAll _ hwanted _ hmem,
      (uses_localNames _).1 (hfresh _ hmem)⟩
  · rw [hrenamed, map_called_renamed hown]
    exact hread
  · intro earlier a later hsplit hlocal hearlier
    rw [hrenamed] at hsplit
    exact argument_of_renamed hown hsplit ((uses_localNames _).2 hlocal) hearlier

/-- A method with two parameters of one name, one called like a name its body uses, one that is
reserved, and one that is a keyword. -/
def sampleNamed : Json.Members :=
  [("path", .str "a"), ("parameters", .obj [("maxResults", .obj []), ("max-results", .obj []),
    ("response", .obj []), ("self", .obj []), ("class", .obj [])])]

theorem ofDeclared_isUsable_sampleNamed :
    ∃ m, ofDeclared (.obj []) "r" "list" (.obj sampleNamed) "list" = .ok m ∧
      m.arguments.map Argument.argument =
        ["max_results", "max_results_2", "response_2", "self_", "class_"] ∧
      (m.arguments.map Argument.argument).Nodup ∧
      (∀ a ∈ m.arguments, IsUsable a.argument ∧ a.argument ∉ localNames) ∧
      Argument.ofMethod (.obj []) sampleNamed = .ok (m.arguments.map called) := by
  obtain ⟨m, hm, hnames⟩ := exists_ok_of_map
    (show (ofDeclared (.obj []) "r" "list" (.obj sampleNamed) "list").toOption.map
        (fun m => m.arguments.map Argument.argument) =
      some ["max_results", "max_results_2", "response_2", "self_", "class_"] by decide)
  obtain ⟨hnodup, husable, ⟨members, hmembers, hread⟩, -⟩ := ofDeclared_isUsable hm
  cases hmembers
  exact ⟨m, hm, hnames, hnodup, husable, hread⟩

end Method
end ApiDiscovery.Source
