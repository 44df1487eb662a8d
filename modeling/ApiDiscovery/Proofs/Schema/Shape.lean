import ApiDiscovery.Proofs.Schema.Argument
import ApiDiscovery.Proofs.Schema.ValueType

/-!
# Parameters and bodies whose values have the shapes that are needed

What the arguments of a method and the schemas of its bodies ask of what the document declares: the
listed names are scalars, descriptions are texts, and the schemas on every way have the shapes that
are needed. Making the arguments tells whether the method has that form (`Argument.tells_ofMethod`),
and so do the schemas of the request (`tells_requestType`) and of the response
(`tells_responseType`).
-/

namespace ApiDiscovery.Schema

open Outcome
open Discovery (Fault)

variable {escapes : Pattern.Fault → Bool} {E : Fault → Prop} {body : Json}

/-! ## Arguments -/

namespace Argument

/-- What is declared for a parameter can be made an argument. -/
def IsShaped (body declared : Json) : Prop :=
  ∃ members, declared.asObject = .ok members ∧ IsShapedFrom body ⟨[], .obj members⟩ ∧
    (Json.getOr members "description" (.str "")).IsString ∧
    Discovery.Parameter.HasChoices members

/-- The method lists no array and no object as the name of a parameter. -/
def HasOrder (method : Json.Members) : Prop :=
  ∃ wanted, (Json.getOr method "parameterOrder" (.arr [])).elements = .ok wanted ∧
    ∀ key ∈ wanted, key.isScalar = true

theorem tells_describe (members : Json.Members) :
    Tells E ((Json.getOr members "description" (.str "")).IsString ∧
      Discovery.Parameter.HasChoices members) (describe members) := by
  refine (Tells.self _).bind fun declared _ => ?_
  dsimp only
  refine Tells.ite ?_ _
  refine (Tells.self _).bind_total fun items _ => ?_
  split
  · exact ⟨_, rfl⟩
  · exact ⟨_, rfl⟩

theorem tells_ofParameter (hE : Fault.AreExpected escapes E) (body : Json) (name : String)
    (declared : Json) : Tells E (IsShaped body declared) (ofParameter body name declared) := by
  refine .bind_exists fun members _ => ?_
  have htype : Tells E _ (typeOf body members) :=
    (ValueType.tells_ofSchema hE body (.obj members)).map _
  exact htype.bind fun type _ => (tells_describe members).map _

theorem tells_ofNames (hE : Fault.AreExpected escapes E) (body : Json) (declared : Json.Members)
    (names : List String) :
    Tells E (∀ name ∈ names, IsShaped body (Json.getOr declared name .null))
      (ofNames body declared names) :=
  .all (ofNames body declared) (fun _ argument others => argument :: others) rfl (fun _ _ => rfl)
    names fun name _ => tells_ofParameter hE body name _

theorem tells_listed (declared : Json.Members) (wanted : List Json) :
    Tells E (∀ key ∈ wanted, key.isScalar = true) (listed declared wanted) := by
  fun_induction listed declared wanted with
  | case1 => exact .ok (fun key hkey => absurd hkey List.not_mem_nil) _
  | case2 name rest ih =>
    refine (ih.map _).congr ?_
    rw [List.forall_mem_cons]
    exact (and_iff_right rfl).symm
  | case3 other rest _ hscalar ih =>
    refine ih.congr ?_
    rw [List.forall_mem_cons]
    exact (and_iff_right hscalar).symm
  | case4 other rest _ hscalar =>
    exact .refused (fun h => hscalar (h other List.mem_cons_self)) _

/-- Where all parameters are objects it can be said of each name whether it is required. -/
theorem exists_marked {declared : Json.Members} (hobjects : ∀ p ∈ declared, ∃ inner, p.2 = .obj inner)
    {names : List String} (hnames : ∀ name ∈ names, name ∈ Json.keys declared) :
    ∃ marks, marked declared names = .ok marks := by
  induction names with
  | nil => exact ⟨[], rfl⟩
  | cons name names ih =>
    obtain ⟨marks, hmarks⟩ := ih fun other hother => hnames other (List.mem_cons_of_mem name hother)
    obtain ⟨value, hvalue⟩ :=
      Option.isSome_iff_exists.1 (Ordered.has_iff.2 (hnames name List.mem_cons_self))
    obtain ⟨inner, hinner⟩ := hobjects _ (Ordered.mem_of_get? hvalue)
    have hrequired : isRequired declared name = .ok (Json.isGivenAt inner "required") := by
      have hlookup : Json.lookup name declared = some (.obj inner) := hvalue.trans (congrArg some hinner)
      rw [isRequired, Json.getOr, hlookup]
      rfl
    refine ⟨(name, Json.isGivenAt inner "required") :: marks, ?_⟩
    rw [marked, hrequired, hmarks]
    rfl

theorem tells_order {declared : Json.Members} (hobjects : ∀ p ∈ declared, ∃ inner, p.2 = .obj inner)
    (wanted : List Json) :
    Tells E (∀ key ∈ wanted, key.isScalar = true) (order declared wanted) := by
  -- Both lists have declared names only, so no mark is missing.
  refine (tells_listed declared wanted).bind_total fun first hfirst => ?_
  obtain ⟨rest, hrest⟩ := exists_marked hobjects
    (fun name (hname : name ∈ (Json.keys declared).filter fun name => !first.contains name) =>
      List.mem_of_mem_filter hname)
  obtain ⟨marks, hmarks⟩ := exists_marked hobjects (listed_subset hfirst)
  dsimp only
  rw [hrest, hmarks]
  exact ⟨_, rfl⟩

/-- Making the arguments of a method whose parameters are objects tells whether what it lists and
what is declared for each parameter has the form that is needed. -/
theorem tells_ofMethod (hE : Fault.AreExpected escapes E) (body : Json)
    {method declared : Json.Members} (hdeclared : Json.objectAt method "parameters" = .ok declared)
    (hobjects : ∀ p ∈ declared, ∃ inner, p.2 = .obj inner) :
    Tells E (HasOrder method ∧
        ∀ name ∈ Json.keys declared, IsShaped body (Json.getOr declared name .null))
      (ofMethod body method) := by
  refine .bind_both fun wanted _ => ?_
  rw [Json.getOr_of_objectAt hdeclared]
  refine (tells_order hobjects wanted).bind fun names hnames => ?_
  -- The order has exactly the declared names.
  refine (tells_ofNames hE body declared names).congr ?_
  constructor
  · exact fun h name hname => h name ((mem_order hnames name).2 hname)
  · exact fun h name hname => h name ((mem_order hnames name).1 hname)

end Argument

/-! ## Bodies -/

/-- The request, if it is given, is an object. -/
def HasRequest (method : Json.Members) : Prop :=
  Json.isGivenAt method "request" = true → ∃ members,
    (Json.getOr method "request" .null).asObject = .ok members

/-- The response, if it is given, is an object, and refers to a schema or has itself the shape that is
needed. -/
def HasResponse (body : Json) (method : Json.Members) : Prop :=
  Json.isGivenAt method "response" = true → ∃ members,
    (Json.getOr method "response" .null).asObject = .ok members ∧
      (Json.lookup "$ref" members = none →
        IsShapedFrom body ⟨[], Json.getOr method "response" .null⟩)

theorem tells_requestType (method : Json.Members) :
    Tells E (HasRequest method) (requestType method) :=
  ((Tells.self (Json.getOr method "request" .null).asObject).map _).ite Json.null

theorem tells_responseType (hE : Fault.AreExpected escapes E) (body : Json)
    (method : Json.Members) : Tells E (HasResponse body method) (responseType body method) := by
  refine Tells.ite ?_ _
  refine .bind_exists fun members _ => ?_
  cases hreference : Json.lookup "$ref" members with
  | some reference => exact .ok (fun h => by cases h) _
  | none =>
    refine ((ValueType.tells_ofSchema hE body _).map _).congr ?_
    exact ⟨fun h _ => h, fun h => h rfl⟩

end ApiDiscovery.Schema
