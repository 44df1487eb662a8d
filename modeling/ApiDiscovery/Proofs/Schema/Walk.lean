import ApiDiscovery.Proofs.Schema.ValueType

/-!
# Where a walk along schemas ends

The type of a schema is where a walk ends that goes from an array to its items, and from a reference
to the schema of that name unless the name was met before (`Move`). Such a walk ends, however the
references go round, and it has one end only. At a name that no schema has there is no type;
otherwise the type is a list for each array on the walk around the type of the last schema, or of an
object if the last schema refers to a name that was met before (`ofSchema_walk`). Unlike the way
from place to place, a walk counts the arrays, and it goes on from an array without items to a
schema that says nothing.
-/

namespace ApiDiscovery.Schema

open Discovery (Fault)
open Relation (ReflTransGen)

/-! ## Schemas -/

/-- The schema refers to the name. -/
def RefersTo (members : Json.Members) (name : String) : Prop :=
  Json.lookup "$ref" members = some (.str name)

/-- The schema is an array, and it does not refer to another schema. -/
structure IsArray (members : Json.Members) : Prop where
  plain : Json.lookup "$ref" members = none
  type : Json.lookup "type" members = some (.str "array")

/-- The value is a schema: an object whose type and reference are texts, if it has them, and if it
is an array and has items, these are a schema. -/
inductive IsSchema : Json → Prop
  | obj {members : Json.Members}
      (htype : ∀ value, Json.lookup "type" members = some value → ∃ name, value = .str name)
      (hreference : ∀ value, Json.lookup "$ref" members = some value → ∃ name, value = .str name)
      (hitems : IsArray members → ∀ items, Json.lookup "items" members = some items →
        IsSchema items) : IsSchema (.obj members)

theorem IsSchema.exists_obj {schema : Json} (h : IsSchema schema) :
    ∃ members, schema = .obj members := by
  cases h with
  | obj _ _ _ => exact ⟨_, rfl⟩

/-- The names of the types that a schema can have of itself. -/
def typeNames : List (String × String) :=
  [("string", "str"), ("integer", "int"), ("number", "float"), ("boolean", "bool"), ("any", "Any"),
   ("object", "dict")]

/-- The name of the type of a schema that names none: it is an object if it has properties. -/
def unnamed (members : Json.Members) : String :=
  if (Json.lookup "properties" members).isSome then "dict" else "Any"

/-- The name of the type that a schema has of itself. -/
def baseOf (members : Json.Members) : String :=
  match Json.lookup "type" members with
  | some (.str name) => (typeNames.lookup name).getD (unnamed members)
  | _ => unnamed members

/-! ## Walks -/

/-- A schema on a walk, with the names that were met and the number of arrays that were passed. -/
structure Site where
  seen : List String
  levels : Nat
  members : Json.Members

/-- One step of a walk: into the items of an array, where none count as a schema that says nothing,
or to the schema of a name that was not met before. -/
inductive Move (schemas : Json.Members) : Site → Site → Prop where
  | item {seen : List String} {levels : Nat} {members items : Json.Members}
      (harray : IsArray members) (hitems : Json.getOr members "items" (.obj []) = .obj items) :
      Move schemas ⟨seen, levels, members⟩ ⟨seen, levels + 1, items⟩
  | reference {seen : List String} {levels : Nat} {members next : Json.Members} {name : String}
      (hreference : RefersTo members name) (hnew : name ∉ seen)
      (hnext : Json.lookup name schemas = some (.obj next)) :
      Move schemas ⟨seen, levels, members⟩ ⟨name :: seen, levels, next⟩

/-- The name of the type at the end of a walk. A schema that still refers to something stands for an
object. -/
def Site.base (site : Site) : String :=
  if (Json.lookup "$ref" site.members).isSome then "dict" else baseOf site.members

theorem baseOf_mem (members : Json.Members) :
    baseOf members ∈ ["str", "int", "float", "bool", "Any", "dict"] := by
  have hother : unnamed members ∈ ["str", "int", "float", "bool", "Any", "dict"] := by
    unfold unnamed
    split
    · decide
    · decide
  unfold baseOf
  split
  · next name _ =>
    cases hname : typeNames.lookup name with
    | none => exact hother
    | some base =>
      have hmem := Ordered.mem_of_get? hname
      exact List.forall_mem_map.1 (by decide : ∀ n ∈ typeNames.map Prod.snd, n ∈ _) _ hmem
  · exact hother

theorem Site.base_mem (site : Site) :
    site.base ∈ ["str", "int", "float", "bool", "Any", "dict"] := by
  unfold base
  split
  · decide
  · exact baseOf_mem site.members

/-- The name of a type with so many lists around it. -/
def nested (levels : Nat) (base : String) : List Char :=
  (List.replicate levels "list[".toList).flatten ++ base.toList ++ List.replicate levels ']'

theorem nested_zero (base : String) : nested 0 base = base.toList := by
  rw [nested, List.replicate_zero, List.replicate_zero, List.append_nil]
  rfl

theorem nested_succ (levels : Nat) (base : String) :
    nested (levels + 1) base = "list[".toList ++ nested levels base ++ [']'] := by
  rw [nested, nested, List.replicate_succ, List.flatten_cons, List.replicate_succ']
  simp only [List.append_assoc]

theorem not_mem_keys {schemas : Json.Members} {name : String} :
    name ∉ Json.keys schemas ↔ Json.lookup name schemas = none := by
  rw [← Option.not_isSome_iff_eq_none]
  exact not_congr Ordered.has_iff.symm

section Move

variable {schemas : Json.Members} {site next : Site}

theorem RefersTo.unique {members : Json.Members} {a b : String} (ha : RefersTo members a)
    (hb : RefersTo members b) : a = b := by
  rw [RefersTo, ha] at hb
  cases hb
  rfl

theorem IsArray.not_refersTo {members : Json.Members} (h : IsArray members) (name : String) :
    ¬RefersTo members name := by
  rw [RefersTo, h.plain]
  exact fun hname => by cases hname

/-- There is one way to go on at most. -/
theorem Move.unique : Relator.RightUnique (Move schemas) := by
  intro site a b ha hb
  cases ha with
  | item harray hitems =>
    cases hb with
    | item _ hother =>
      rw [hitems] at hother
      cases hother
      rfl
    | reference hreference _ _ => exact absurd hreference (harray.not_refersTo _)
  | reference hreference _ hnext =>
    cases hb with
    | item harray _ => exact absurd hreference (harray.not_refersTo _)
    | reference hother _ hnext' =>
      cases hreference.unique hother
      rw [hnext] at hnext'
      cases hnext'
      rfl

/-- A walk that reaches an end cannot go on for ever. -/
theorem acc_of_end {start last : Site} (h : ReflTransGen (Move schemas) start last)
    (hlast : ∀ next, ¬Move schemas last next) :
    Acc (fun next site => Move schemas site next) start := by
  induction h using ReflTransGen.head_induction_on with
  | refl => exact Acc.intro last fun next hnext => absurd hnext (hlast next)
  | head hmove _ ih => exact Acc.intro _ fun next hnext => Move.unique hmove hnext ▸ ih

/-- All sites where a walk cannot go on are the same. -/
theorem eq_of_ends {start last : Site} (h : ReflTransGen (Move schemas) start last)
    (hlast : ∀ next, ¬Move schemas last next) (hsite : ReflTransGen (Move schemas) start site)
    (hend : ∀ next, ¬Move schemas site next) : site = last := by
  have hstay {a b : Site} (hab : ReflTransGen (Move schemas) a b)
      (ha : ∀ next, ¬Move schemas a next) : a = b := by
    rcases hab.cases_head with heq | ⟨c, hc, -⟩
    · exact heq
    · exact absurd hc (ha c)
  rcases ReflTransGen.total_of_right_unique Move.unique hsite h with hreach | hreach
  · exact hstay hreach hend
  · exact (hstay hreach hlast).symm

/-- The names that were met are those of schemas. -/
theorem Move.seen_subset (h : Move schemas site next) (hseen : site.seen ⊆ Json.keys schemas) :
    next.seen ⊆ Json.keys schemas := by
  cases h with
  | item _ _ => exact hseen
  | reference _ _ hnext =>
    refine List.cons_subset.2 ⟨?_, hseen⟩
    exact Ordered.has_iff.1 (Option.isSome_of_eq_some hnext)

theorem seen_subset_of_walk {start : Site} (h : ReflTransGen (Move schemas) start site)
    (hstart : start.seen ⊆ Json.keys schemas) : site.seen ⊆ Json.keys schemas := by
  induction h with
  | refl => exact hstart
  | tail _ hmove ih => exact hmove.seen_subset ih

theorem not_move_of_missing {name : String} (hreference : RefersTo site.members name)
    (hmissing : Json.lookup name schemas = none) : ¬Move schemas site next := by
  intro h
  cases h with
  | item harray _ => exact harray.not_refersTo name hreference
  | reference hother _ hnext =>
    cases hreference.unique hother
    rw [hmissing] at hnext
    cases hnext

theorem not_move_of_repeated {name : String} (hreference : RefersTo site.members name)
    (hseen : name ∈ site.seen) : ¬Move schemas site next := by
  intro h
  cases h with
  | item harray _ => exact harray.not_refersTo name hreference
  | reference hother hnew _ =>
    cases hreference.unique hother
    exact hnew hseen

theorem not_move_of_plain (hplain : Json.lookup "$ref" site.members = none)
    (hnot : Json.lookup "type" site.members ≠ some (.str "array")) : ¬Move schemas site next := by
  intro h
  cases h with
  | item harray _ => exact hnot harray.type
  | reference hreference _ _ =>
    rw [RefersTo, hplain] at hreference
    cases hreference

end Move

/-! ## Answers -/

/-- What the end of a walk says, with so many arrays on the walk before it. -/
inductive Site.Answers (schemas : Json.Members) (site : Site) (levels : Nat) :
    Except Fault ValueType → Prop where
  | missing {name : String} (hreference : RefersTo site.members name)
      (hmissing : Json.lookup name schemas = none) :
      site.Answers schemas levels (.error (.unknownReference (.str name)))
  | repeated {name : String} {found : ValueType} (hreference : RefersTo site.members name)
      (hseen : name ∈ site.seen) (hfound : found.annotation.toList = nested levels "dict") :
      site.Answers schemas levels (.ok found)
  | plain {found : ValueType} (hplain : Json.lookup "$ref" site.members = none)
      (hnot : Json.lookup "type" site.members ≠ some (.str "array"))
      (hfound : found.annotation.toList = nested levels (baseOf site.members)) :
      site.Answers schemas levels (.ok found)

/-- A walk from the site ends where the outcome says. -/
def Site.LeadsTo (schemas : Json.Members) (site : Site) (outcome : Except Fault ValueType) : Prop :=
  ∃ last levels, ReflTransGen (Move schemas) site last ∧ last.levels = site.levels + levels ∧
    last.Answers schemas levels outcome

namespace Site

variable {schemas : Json.Members} {site next : Site} {outcome : Except Fault ValueType}

theorem Answers.not_move {levels : Nat} (h : site.Answers schemas levels outcome) :
    ¬Move schemas site next := by
  cases h with
  | missing hreference hmissing => exact not_move_of_missing hreference hmissing
  | repeated hreference hseen _ => exact not_move_of_repeated hreference hseen
  | plain hplain hnot _ => exact not_move_of_plain hplain hnot

theorem Answers.map_list {levels : Nat} (h : site.Answers schemas levels outcome) :
    site.Answers schemas (levels + 1) (outcome.map .list) := by
  have hlist {found : ValueType} {base : String}
      (hfound : found.annotation.toList = nested levels base) :
      (ValueType.annotation (.list found)).toList = nested (levels + 1) base := by
    rw [ValueType.annotation, String.toList_append, String.toList_append, hfound, nested_succ]
    rfl
  cases h with
  | missing hreference hmissing => exact .missing hreference hmissing
  | repeated hreference hseen hfound => exact .repeated hreference hseen (hlist hfound)
  | plain hplain hnot hfound => exact .plain hplain hnot (hlist hfound)

theorem Answers.of_error {levels : Nat} {fault : Fault}
    (h : site.Answers schemas levels (.error fault)) :
    ∃ name, RefersTo site.members name ∧ name ∉ Json.keys schemas ∧
      fault = .unknownReference (.str name) := by
  cases h with
  | missing hreference hmissing => exact ⟨_, hreference, not_mem_keys.2 hmissing, rfl⟩

theorem Answers.eq_error {levels : Nat} {name : String} (h : site.Answers schemas levels outcome)
    (hseen : site.seen ⊆ Json.keys schemas) (hname : RefersTo site.members name)
    (hmissing : name ∉ Json.keys schemas) : outcome = .error (.unknownReference (.str name)) := by
  cases h with
  | missing hreference _ => rw [hname.unique hreference]
  | repeated hreference hmet _ =>
    cases hname.unique hreference
    exact absurd (hseen hmet) hmissing
  | plain hplain _ _ =>
    rw [RefersTo, hplain] at hname
    cases hname

/-- A type is named after the last schema, which can refer only to a name that was met. -/
theorem Answers.of_ok {levels : Nat} {found : ValueType}
    (h : site.Answers schemas levels (.ok found)) :
    found.annotation.toList = nested levels site.base ∧
      ∀ name, RefersTo site.members name → name ∈ site.seen ∧ site.base = "dict" := by
  cases h with
  | repeated hreference hseen hfound =>
    have hbase : site.base = "dict" := by
      rw [base, hreference]
      rfl
    refine ⟨by rw [hfound, hbase], fun name hname => ⟨?_, hbase⟩⟩
    rwa [hname.unique hreference]
  | plain hplain _ hfound =>
    have hbase : site.base = baseOf site.members := by
      rw [base, hplain]
      rfl
    refine ⟨by rw [hfound, hbase], fun name hname => ?_⟩
    rw [RefersTo, hplain] at hname
    cases hname

theorem Answers.leadsTo (h : site.Answers schemas 0 outcome) : site.LeadsTo schemas outcome :=
  ⟨site, 0, .refl, rfl, h⟩

theorem LeadsTo.item (hmove : Move schemas site next) (hlevels : next.levels = site.levels + 1)
    (h : next.LeadsTo schemas outcome) : site.LeadsTo schemas (outcome.map .list) := by
  obtain ⟨last, levels, hreach, hlast, hanswers⟩ := h
  exact ⟨last, levels + 1, .head hmove hreach, by omega, hanswers.map_list⟩

theorem LeadsTo.reference (hmove : Move schemas site next) (hlevels : next.levels = site.levels)
    (h : next.LeadsTo schemas outcome) : site.LeadsTo schemas outcome := by
  obtain ⟨last, levels, hreach, hlast, hanswers⟩ := h
  exact ⟨last, levels, .head hmove hreach, by omega, hanswers⟩

end Site

namespace ValueType

variable {body : Json} {schemas : Json.Members} {names : List String}

/-! ## Finding the type -/

theorem isScalar_type {members : Json.Members}
    (htype : ∀ value, Json.lookup "type" members = some value → ∃ name, value = .str name) :
    (Json.getOr members "type" .null).isScalar = true := by
  rw [Json.getOr]
  cases hlookup : Json.lookup "type" members with
  | none => rfl
  | some value =>
    obtain ⟨name, rfl⟩ := htype value hlookup
    rfl

theorem annotation_of_ofName? {name : String} {found : ValueType}
    (h : ofName? (.str name) = some found) : typeNames.lookup name = some found.annotation := by
  unfold ofName? at h
  split at h <;> cases h <;> next heq => cases heq; rfl

theorem lookup_of_unnamed {name : String} (h : ofName? (.str name) = none) :
    typeNames.lookup name = if name = "object" then some "dict" else none := by
  have hne (text : String) (htext : (ofName? (.str text)).isSome = true) :
      (name == text) = false := by
    refine beq_eq_false_iff_ne.2 ?_
    rintro rfl
    rw [h] at htext
    cases htext
  simp only [typeNames, List.lookup_cons, List.lookup_nil, hne "string" rfl, hne "integer" rfl,
    hne "number" rfl, hne "boolean" rfl, hne "any" rfl]
  by_cases hobject : name = "object"
  · rw [if_pos hobject, beq_iff_eq.2 hobject]
  · rw [if_neg hobject, beq_eq_false_iff_ne.2 hobject]

/-- A schema that is no array and refers to nothing has the type that it names. -/
theorem ofSchemaWith_plain (follow : Json → Except Fault ValueType) {members : Json.Members}
    (htype : ∀ value, Json.lookup "type" members = some value → ∃ name, value = .str name)
    (hplain : Json.lookup "$ref" members = none)
    (hnot : Json.lookup "type" members ≠ some (.str "array")) :
    ∃ found, ofSchemaWith follow (.obj members) = .ok found ∧
      found.annotation = baseOf members := by
  -- What is no object by its type can be one by its properties.
  have hother {value : Json} (hvalue : ¬value.same (.str "object") = true) :
      ∃ found, (if value.same (.str "object") || (Json.lookup "properties" members).isSome then
          (.ok object : Except Fault ValueType) else .ok any) = .ok found ∧
        found.annotation = unnamed members := by
    rw [Bool.eq_false_iff.2 hvalue, Bool.false_or, unnamed]
    split
    · exact ⟨object, rfl, rfl⟩
    · exact ⟨any, rfl, rfl⟩
  rw [ofSchemaWith]
  by_cases hempty : members.isEmpty = true
  · obtain rfl := List.isEmpty_iff.1 hempty
    exact ⟨any, rfl, rfl⟩
  rw [if_neg hempty, hplain]
  dsimp only
  rw [isScalar_type htype, Bool.not_true, if_neg Bool.false_ne_true, Json.getOr, baseOf]
  cases hlookup : Json.lookup "type" members with
  | none => exact hother (by simp [same_str_iff])
  | some value =>
    obtain ⟨name, rfl⟩ := htype value hlookup
    rw [Option.getD_some]
    dsimp only
    cases hnamed : ofName? (.str name) with
    | some named => exact ⟨named, rfl, by rw [annotation_of_ofName? hnamed, Option.getD_some]⟩
    | none =>
      have harray : ¬(Json.str name).same (.str "array") = true := by
        rw [same_str_iff, ← Option.some_inj, ← hlookup]
        exact hnot
      dsimp only
      rw [if_neg harray, lookup_of_unnamed hnamed]
      by_cases hobject : name = "object"
      · rw [if_pos hobject, same_str_iff.2 (congrArg Json.str hobject), Bool.true_or]
        exact ⟨object, rfl, rfl⟩
      · rw [if_neg hobject]
        refine hother fun hsame => hobject ?_
        cases same_str_iff.1 hsame
        rfl

/-! ## Following the walk -/

theorem any_sameKey_iff {name : String} :
    (names.map Json.str).any (Json.str name).sameKey = true ↔ name ∈ names := by
  simp [Json.sameKey]

theorem resolve_name (hbody : schemasOf body = .ok (.obj schemas)) (name : String) :
    resolve body (.str name) =
      match Json.lookup name schemas with
      | some schema => .ok schema
      | none => .error (.unknownReference (.str name)) := by
  rw [resolve, hbody]
  rfl

/-- The walk from a schema ends where its type says, if the walk along a reference does. The
induction is on the items. -/
theorem leadsTo_ofSchemaWith {follow : Json → Except Fault ValueType}
    (hfollow : ∀ levels members name, RefersTo members name →
      (⟨names, levels, members⟩ : Site).LeadsTo schemas (follow (.str name)))
    {members : Json.Members} (hschema : IsSchema (.obj members)) (levels : Nat) :
    (⟨names, levels, members⟩ : Site).LeadsTo schemas (ofSchemaWith follow (.obj members)) := by
  generalize hvalue : Json.obj members = value at hschema
  induction hschema generalizing members levels with
  | @obj found htype hreference hinner ih =>
    obtain rfl : members = found := by injection hvalue
    rcases ofSchemaWith_obj follow members with ⟨reference, hfound, heq⟩ |
      ⟨hplain, hshape, heq⟩ | ⟨hplain, harray, heq⟩ | ⟨hplain, -, hnot, -⟩
    · rw [heq]
      obtain ⟨name, rfl⟩ := hreference reference hfound
      exact hfollow levels members name hfound
    · rw [isScalar_type htype] at hshape
      cases hshape
    · rw [heq, ofItems_eq]
      cases hitems : Json.lookup "items" members with
      | none =>
        refine .item (.item ⟨hplain, harray⟩ (by rw [Json.getOr, hitems]; rfl)) rfl ?_
        exact Site.Answers.leadsTo (.plain rfl (by simp [Json.lookup]) (nested_zero _).symm)
      | some items =>
        obtain ⟨inner, rfl⟩ := (hinner ⟨hplain, harray⟩ items hitems).exists_obj
        refine .item (.item ⟨hplain, harray⟩ ?_) rfl (ih ⟨hplain, harray⟩ _ hitems (levels + 1) rfl)
        rw [Json.getOr, hitems, Option.getD_some]
    · obtain ⟨found, heq, hfound⟩ := ofSchemaWith_plain follow htype hplain hnot
      rw [heq]
      refine Site.Answers.leadsTo (.plain hplain hnot ?_)
      rw [hfound, nested_zero]

/-- The walk from a schema ends where its type says, if there is fuel for all references that can
still come. The induction is on the fuel, with the names that were met on the way to the schema. -/
theorem leadsTo_ofSchemaFrom (hbody : schemasOf body = .ok (.obj schemas))
    (hschemas : ∀ p ∈ schemas, IsSchema p.2) {fuel : Nat}
    (hfuel : IsEnough body fuel (names.map .str)) {members : Json.Members}
    (hschema : IsSchema (.obj members)) (levels : Nat) :
    (⟨names, levels, members⟩ : Site).LeadsTo schemas
      (ofSchemaFrom body fuel (names.map .str) (.obj members)) := by
  induction fuel generalizing names members levels with
  | zero => exact absurd rfl hfuel.ne_zero
  | succ fuel ih =>
    rw [ofSchemaFrom]
    refine leadsTo_ofSchemaWith (fun levels members name hreference => ?_) hschema levels
    have hscalar : (Json.str name).isScalar = true := rfl
    rw [hscalar, Bool.not_true, if_neg Bool.false_ne_true]
    by_cases hseen : name ∈ names
    · rw [if_pos (any_sameKey_iff.2 hseen)]
      exact Site.Answers.leadsTo (.repeated hreference hseen (nested_zero _).symm)
    rw [if_neg (mt any_sameKey_iff.1 hseen)]
    cases hlookup : Json.lookup name schemas with
    | none =>
      rw [resolve_name hbody, hlookup]
      exact Site.Answers.leadsTo (.missing hreference hlookup)
    | some schema =>
      have hresolved : resolve body (.str name) = .ok schema := by
        rw [resolve_name hbody, hlookup]
      have hnext := hschemas _ (Ordered.mem_of_get? hlookup)
      obtain ⟨next, rfl⟩ := hnext.exists_obj
      rw [hresolved]
      refine .reference (.reference hreference hseen hlookup) rfl ?_
      have hrest : IsEnough body fuel ((name :: names).map .str) :=
        hfuel.next (Bool.eq_false_iff.2 (mt any_sameKey_iff.1 hseen)) hresolved
      exact ih hrest hnext levels

/-- More fuel than is enough changes nothing. -/
theorem ofSchemaFrom_add {fuel : Nat} {seen : List Json} (h : IsEnough body fuel seen) (more : Nat)
    (schema : Json) :
    ofSchemaFrom body (fuel + more) seen schema = ofSchemaFrom body fuel seen schema := by
  induction fuel generalizing seen schema with
  | zero => exact absurd rfl h.ne_zero
  | succ fuel ih =>
    rw [Nat.add_right_comm, ofSchemaFrom, ofSchemaFrom]
    congr 1
    funext reference
    cases hseen : seen.any reference.sameKey with
    | true => rfl
    | false =>
      cases hresolved : resolve body reference with
      | error fault => rfl
      | ok resolved => simp only [ih (h.next hseen hresolved) resolved]

/-- Finding the type of a schema comes to an end, however the schemas refer to each other. It fails
just if the walk from the schema comes to a name that no schema has, before it comes to a name for
the second time. Otherwise the type is a list for each array on the walk around the type at its end,
which is that of an object if the walk ends at a name that was met before. -/
theorem ofSchema_walk (hbody : schemasOf body = .ok (.obj schemas))
    (hschemas : ∀ p ∈ schemas, IsSchema p.2) {members : Json.Members}
    (hschema : IsSchema (.obj members)) :
    (Acc (fun next site => Move schemas site next) ⟨[], 0, members⟩ ∧
      ∀ more, ofSchemaFrom body (referenceCount body + 2 + more) [] (.obj members) =
        ofSchema body (.obj members)) ∧
    (∀ fault, ofSchema body (.obj members) = .error fault ↔
      ∃ site name, ReflTransGen (Move schemas) ⟨[], 0, members⟩ site ∧
        RefersTo site.members name ∧ name ∉ Json.keys schemas ∧
        fault = .unknownReference (.str name)) ∧
    ((∀ site name, ReflTransGen (Move schemas) ⟨[], 0, members⟩ site →
        RefersTo site.members name → name ∈ Json.keys schemas) →
      ∃ found last, ofSchema body (.obj members) = .ok found ∧
        ReflTransGen (Move schemas) ⟨[], 0, members⟩ last ∧ (∀ next, ¬Move schemas last next) ∧
        found.annotation.toList = nested last.levels last.base ∧
        last.base ∈ ["str", "int", "float", "bool", "Any", "dict"] ∧
        ∀ name, RefersTo last.members name → name ∈ last.seen ∧ last.base = "dict") := by
  obtain ⟨last, levels, hreach, hlevels, hanswers⟩ :
      (⟨[], 0, members⟩ : Site).LeadsTo schemas (ofSchema body (.obj members)) :=
    @leadsTo_ofSchemaFrom body schemas [] hbody hschemas _ (isEnough_start body) members hschema 0
  obtain rfl : last.levels = levels := by rw [hlevels, Nat.zero_add]
  have hlast : ∀ next, ¬Move schemas last next := fun next => hanswers.not_move
  refine ⟨⟨acc_of_end hreach hlast, fun more => ?_⟩, fun fault => ⟨fun hfault => ?_, ?_⟩,
    fun hknown => ?_⟩
  · exact ofSchemaFrom_add (isEnough_start body) more _
  · rw [hfault] at hanswers
    obtain ⟨name, hreference, hmissing, hname⟩ := hanswers.of_error
    exact ⟨last, name, hreach, hreference, hmissing, hname⟩
  · rintro ⟨site, name, hsite, hreference, hmissing, rfl⟩
    have hend : ∀ next, ¬Move schemas site next := fun next =>
      not_move_of_missing hreference (not_mem_keys.1 hmissing)
    obtain rfl := eq_of_ends hreach hlast hsite hend
    exact hanswers.eq_error (seen_subset_of_walk hsite (List.nil_subset _)) hreference hmissing
  · cases houtcome : ofSchema body (.obj members) with
    | error fault =>
      rw [houtcome] at hanswers
      obtain ⟨name, hreference, hmissing, -⟩ := hanswers.of_error
      exact absurd (hknown last name hreach hreference) hmissing
    | ok found =>
      rw [houtcome] at hanswers
      exact ⟨found, last, rfl, hreach, hlast, hanswers.of_ok.1, last.base_mem, hanswers.of_ok.2⟩

/-- The members of a list of what the schema of that name describes. -/
def sampleList (name : String) : Json.Members :=
  [("type", .str "array"), ("items", .obj [("$ref", .str name)])]

/-- Two schemas that are lists of each other. -/
def sampleCyclic : Json.Members :=
  [("Inner", .obj (sampleList "Outer")), ("Outer", .obj (sampleList "Inner"))]

theorem ofSchema_walk_sampleCyclic :
    ∃ last, ofSchema (.obj [("schemas", .obj sampleCyclic)]) (.obj (sampleList "Inner")) =
        .ok (.list (.list (.list .object))) ∧
      ReflTransGen (Move sampleCyclic) ⟨[], 0, sampleList "Inner"⟩ last ∧
      "list[list[list[dict]]]".toList = nested last.levels last.base := by
  have hreference (name : String) : IsSchema (.obj [("$ref", .str name)]) := by
    refine .obj (fun _ h => by cases h) (fun _ h => ⟨name, (Option.some_inj.1 h).symm⟩) ?_
    intro harray
    exact absurd rfl (harray.not_refersTo name)
  have hlist (name : String) : IsSchema (.obj (sampleList name)) := by
    refine .obj (fun _ h => ⟨"array", (Option.some_inj.1 h).symm⟩) (fun _ h => by cases h) ?_
    intro _ items hitems
    obtain rfl : Json.obj [("$ref", .str name)] = items := Option.some_inj.1 hitems
    exact hreference name
  have heval : ofSchema (.obj [("schemas", .obj sampleCyclic)]) (.obj (sampleList "Inner")) =
      .ok (.list (.list (.list .object))) := by rfl
  obtain ⟨-, hfault, hok⟩ := @ofSchema_walk (.obj [("schemas", .obj sampleCyclic)]) sampleCyclic rfl
    (by simp [sampleCyclic, hlist]) _ (hlist "Inner")
  obtain ⟨found, last, hfound, hreach, -, hnested, -⟩ := hok fun site name hsite hname => by
    by_contra hmissing
    have herror := (hfault _).2 ⟨site, name, hsite, hname, hmissing, rfl⟩
    rw [heval] at herror
    cases herror
  rw [heval] at hfound
  cases hfound
  exact ⟨last, heval, hreach, hnested⟩

end ValueType
end ApiDiscovery.Schema
