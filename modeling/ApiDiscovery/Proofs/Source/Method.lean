import ApiDiscovery.Proofs.Outcome
import ApiDiscovery.Source.Method

/-!
# Making methods

What a method has of the method that the document declares (`Method.ofDeclared_eq_ok`), and that
only a fault of the document keeps it from being made (`Method.blamesDocument_ofDeclared`). Giving
the arguments their names changes nothing else about them (`renamed_forall₂`).
-/

namespace ApiDiscovery.Source

open Outcome

/-! ## Faults of the document -/

/-- The outcome is no fault of adding to a class: if it is a fault, it is one of the document. -/
def BlamesDocument {α : Type} (outcome : Except Fault α) : Prop :=
  ∀ fault, outcome = .error fault → ∃ found, fault = .document found

namespace BlamesDocument

variable {α β : Type}

theorem ok (a : α) : BlamesDocument (.ok a) := by
  intro fault h
  cases h

theorem ofDiscovery (outcome : Except Discovery.Fault α) :
    BlamesDocument (ofDiscovery outcome) := by
  intro fault h
  obtain ⟨found, -, rfl⟩ := mapError_eq_error.1 h
  exact ⟨found, rfl⟩

theorem map {x : Except Fault α} (hx : BlamesDocument x) (f : α → β) :
    BlamesDocument (x.map f) := by
  cases x with
  | error fault =>
    intro found h
    cases h
    exact hx fault rfl
  | ok a => exact .ok (f a)

theorem bind {x : Except Fault α} {f : α → Except Fault β} (hx : BlamesDocument x)
    (hf : ∀ a, x = .ok a → BlamesDocument (f a)) : BlamesDocument (x >>= f) := by
  intro fault h
  rcases bind_eq_error.1 h with h | ⟨a, ha, h⟩
  · exact hx fault h
  · exact hf a ha fault h

end BlamesDocument

theorem ofDiscovery_eq_ok {α : Type} {outcome : Except Discovery.Fault α} {a : α} :
    ofDiscovery outcome = .ok a ↔ outcome = .ok a :=
  mapError_eq_ok

theorem ofDiscovery_eq_error {α : Type} {outcome : Except Discovery.Fault α} {fault : Fault} :
    ofDiscovery outcome = .error fault ↔
      ∃ found, outcome = .error found ∧ .document found = fault :=
  mapError_eq_error

/-! ## Methods -/

/-- The two arguments differ at most in the name that the argument has in the signature. -/
structure SameParameter (a b : Schema.Argument) : Prop where
  name : a.name = b.name
  required : a.required = b.required
  details : a.details = b.details

theorem renamed_forall₂ (names : Naming.Allocator) (arguments : List Schema.Argument) :
    List.Forall₂ SameParameter (renamed names arguments) arguments := by
  induction arguments generalizing names with
  | nil => exact List.Forall₂.nil
  | cons a arguments ih => exact List.Forall₂.cons ⟨rfl, rfl, rfl⟩ (ih _)

namespace Method

variable {body declared : Json} {path discoveryName name : String}

theorem ofDeclared_eq_ok {m : Method}
    (h : ofDeclared body path discoveryName declared name = .ok m) :
    ∃ members arguments, declared.asObject = .ok members ∧
      Schema.Argument.ofMethod body members = .ok arguments ∧
      List.Forall₂ SameParameter m.arguments arguments ∧
      m.name = name ∧ m.resource = path ∧ m.discoveryName = discoveryName ∧
      m.verb = Discovery.Method.verbOf members := by
  simp only [ofDeclared, argumentsOf, bind_eq_ok, pure_eq_ok, ofDiscovery_eq_ok] at h
  obtain ⟨members, hmembers, -, ⟨arguments, harguments, rfl⟩, -, -, -, -, -, -, rfl⟩ := h
  exact ⟨members, arguments, hmembers, harguments, renamed_forall₂ _ _, rfl, rfl, rfl, rfl⟩

theorem blamesDocument_methodDoc (members : Json.Members) (arguments : List Schema.Argument)
    (requestType responseType : Json) :
    BlamesDocument (methodDoc members arguments requestType responseType) := by
  refine .bind (.bind (.ofDiscovery _) ?_) ?_
  · intro description _
    dsimp only
    split
    · exact .ok _
    · exact .ok _
  · intro first _
    exact .ok _

/-- A method that is not made fails by what the document declares. -/
theorem blamesDocument_ofDeclared (body : Json) (path discoveryName : String) (declared : Json)
    (name : String) : BlamesDocument (ofDeclared body path discoveryName declared name) := by
  refine .bind (.ofDiscovery _) fun members _ => ?_
  refine .bind (.bind (.ofDiscovery _) fun arguments _ => .ok _) fun arguments _ => ?_
  refine .bind (.ofDiscovery _) fun requestType _ => ?_
  refine .bind (.ofDiscovery _) fun responseType _ => ?_
  refine .bind (blamesDocument_methodDoc members arguments requestType responseType) ?_
  intro doc _
  exact .ok _

end Method
end ApiDiscovery.Source
