import ApiDiscovery.Proofs.Discovery.Shape
import ApiDiscovery.Schema.ValueType
import Mathlib.Data.List.Perm.Subperm
import Mathlib.Logic.Relation

/-!
# The way along a schema

The type of a schema is found on a way from place to place (`Step`): from an array to its items, and
from a reference to the schema that it names, unless it was followed before. A reference is followed
at most once, so the way is no longer than the count of references allows
(`length_le_referenceCount`). Finding the type tells whether the schemas on the way have the shapes
that are needed (`ValueType.tells_ofSchema`).
-/

namespace ApiDiscovery.Schema

open Outcome
open Discovery (Fault)

/-! ## Places -/

/-- A place on the way along a schema: the references that were followed, the last one first, and the
schema that stands there. -/
structure Place where
  seen : List Json
  schema : Json

/-- The way goes on from one place to another. -/
inductive Step (body : Json) : Place → Place → Prop where
  | item {seen : List Json} {members : Json.Members} {items : Json}
      (hplain : Json.lookup "$ref" members = none)
      (harray : Json.lookup "type" members = some (.str "array"))
      (hitems : Json.lookup "items" members = some items) :
      Step body ⟨seen, .obj members⟩ ⟨seen, items⟩
  | reference {seen : List Json} {members : Json.Members} {reference resolved : Json}
      (hreference : Json.lookup "$ref" members = some reference)
      (hnew : seen.any reference.sameKey = false)
      (hresolved : resolve body reference = .ok resolved) :
      Step body ⟨seen, .obj members⟩ ⟨reference :: seen, resolved⟩

section Step

variable {body : Json} {seen : List Json} {members : Json.Members} {next : Place}

theorem step_plain (hplain : Json.lookup "$ref" members = none) :
    Step body ⟨seen, .obj members⟩ next ↔ Json.lookup "type" members = some (.str "array") ∧
      ∃ items, Json.lookup "items" members = some items ∧ next = ⟨seen, items⟩ := by
  constructor
  · intro h
    cases h with
    | item _ harray hitems => exact ⟨harray, _, hitems, rfl⟩
    | reference hreference _ _ =>
      rw [hplain] at hreference
      cases hreference
  · rintro ⟨harray, items, hitems, rfl⟩
    exact .item hplain harray hitems

theorem step_reference {reference : Json}
    (hreference : Json.lookup "$ref" members = some reference) :
    Step body ⟨seen, .obj members⟩ next ↔ seen.any reference.sameKey = false ∧
      ∃ resolved, resolve body reference = .ok resolved ∧
        next = ⟨reference :: seen, resolved⟩ := by
  constructor
  · intro h
    cases h with
    | item hplain _ _ =>
      rw [hreference] at hplain
      cases hplain
    | reference hother hnew hresolved =>
      rw [hreference] at hother
      cases hother
      exact ⟨hnew, _, hresolved, rfl⟩
  · rintro ⟨hnew, resolved, hresolved, rfl⟩
    exact .reference hreference hnew hresolved

theorem not_step_other {schema : Json} (hnot : ∀ members, schema ≠ .obj members) :
    ¬Step body ⟨seen, schema⟩ next := by
  intro h
  cases h with
  | item _ _ _ => exact hnot _ rfl
  | reference _ _ _ => exact hnot _ rfl

end Step

/-- A reference can be looked up: it is no array and no object, and if the schemas are not an object
it is the position of one of them. -/
def CanBeResolved (body reference : Json) : Prop :=
  reference.isScalar = true ∧ ∃ schemas, schemasOf body = .ok schemas ∧
    ((∃ members, schemas = .obj members) ∨ ∃ schema, entryOf schemas reference = .ok schema)

/-- The schema at a place has the shape that is needed: it is an object, if it is given; it refers to
what can be looked up or was seen before, or else its type is no array and no object. -/
structure Place.IsShaped (body : Json) (place : Place) : Prop where
  object : place.schema.isGiven = true → ∃ members, place.schema = .obj members
  reference : ∀ members reference, place.schema = .obj members →
    Json.lookup "$ref" members = some reference →
      reference.isScalar = true ∧
        (place.seen.any reference.sameKey = true ∨ CanBeResolved body reference)
  type : ∀ members, place.schema = .obj members → Json.lookup "$ref" members = none →
    (Json.getOr members "type" .null).isScalar = true

namespace Place

variable {body : Json} {seen : List Json} {members : Json.Members}

theorem isShaped_reference {reference : Json}
    (hreference : Json.lookup "$ref" members = some reference) :
    (⟨seen, .obj members⟩ : Place).IsShaped body ↔
      reference.isScalar = true ∧
        (seen.any reference.sameKey = true ∨ CanBeResolved body reference) := by
  constructor
  · intro h
    exact h.reference members reference rfl hreference
  · intro h
    refine ⟨fun _ => ⟨members, rfl⟩, fun found other hfound hother => ?_, fun found hfound hnone => ?_⟩
    · cases hfound
      rw [hreference] at hother
      cases hother
      exact h
    · cases hfound
      rw [hreference] at hnone
      cases hnone

theorem isShaped_plain (hplain : Json.lookup "$ref" members = none) :
    (⟨seen, .obj members⟩ : Place).IsShaped body ↔
      (Json.getOr members "type" .null).isScalar = true := by
  constructor
  · intro h
    exact h.type members rfl hplain
  · intro h
    refine ⟨fun _ => ⟨members, rfl⟩, fun found other hfound hother => ?_, fun found hfound _ => ?_⟩
    · cases hfound
      rw [hplain] at hother
      cases hother
    · cases hfound
      exact h

theorem isShaped_other {schema : Json} (hnot : ∀ members, schema ≠ .obj members) :
    (⟨seen, schema⟩ : Place).IsShaped body ↔ schema.isGiven = false := by
  constructor
  · intro h
    refine Bool.eq_false_iff.2 fun hgiven => ?_
    obtain ⟨members, hobject⟩ := h.object hgiven
    exact hnot members hobject
  · intro h
    refine ⟨fun hgiven => ?_, fun members _ hobject => absurd hobject (hnot members),
      fun members hobject => absurd hobject (hnot members)⟩
    rw [h] at hgiven
    cases hgiven

end Place

/-- All schemas on the way from a place have the shapes that are needed. -/
def IsShapedFrom (body : Json) (place : Place) : Prop :=
  ∀ p, Relation.ReflTransGen (Step body) place p → p.IsShaped body

section Places

variable {body : Json} {place : Place}

theorem isShapedFrom_iff :
    IsShapedFrom body place ↔
      place.IsShaped body ∧ ∀ next, Step body place next → IsShapedFrom body next := by
  constructor
  · intro h
    exact ⟨h place .refl, fun next hnext p hp => h p (.head hnext hp)⟩
  · rintro ⟨hplace, hnext⟩ p hp
    rcases hp.cases_head with rfl | ⟨next, hstep, hp⟩
    · exact hplace
    · exact hnext next hstep p hp

/-- At the end of the way only the last place counts. -/
theorem isShapedFrom_last (hlast : ∀ next, ¬Step body place next) :
    IsShapedFrom body place ↔ place.IsShaped body := by
  rw [isShapedFrom_iff]
  exact and_iff_left fun next hnext => absurd hnext (hlast next)

/-- A place that is all right itself adds nothing to the only one after it. -/
theorem isShapedFrom_next {next : Place} (hplace : place.IsShaped body)
    (hstep : ∀ other, Step body place other ↔ other = next) :
    IsShapedFrom body next ↔ IsShapedFrom body place := by
  rw [@isShapedFrom_iff body place]
  constructor
  · intro h
    exact ⟨hplace, fun other hother => (hstep other).1 hother ▸ h⟩
  · intro h
    exact h.2 next ((hstep next).2 rfl)

end Places

/-! ## How long the way can be -/

/-- Values that are different keys and each have a code have no more than there are codes, if values
with one code are the same key. -/
theorem length_le_of_codes {γ : Type} (IsCode : Json → γ → Prop) {codes : List γ} {seen : List Json}
    (hsame : ∀ a b c, IsCode a c → IsCode b c → a.sameKey b = true)
    (hcodes : ∀ r ∈ seen, ∃ c ∈ codes, IsCode r c)
    (hdistinct : seen.Pairwise fun a b => a.sameKey b = false) : seen.length ≤ codes.length := by
  classical
  induction seen generalizing codes with
  | nil => exact Nat.zero_le _
  | cons r seen ih =>
    rw [List.pairwise_cons] at hdistinct
    obtain ⟨c, hc, hcode⟩ := hcodes r List.mem_cons_self
    -- No other value has this code, so the rest makes do without it.
    have hrest : seen.length ≤ (codes.erase c).length := by
      refine ih (fun s hs => ?_) hdistinct.2
      obtain ⟨d, hd, hother⟩ := hcodes s (List.mem_cons_of_mem r hs)
      refine ⟨d, (List.mem_erase_of_ne ?_).2 hd, hother⟩
      rintro rfl
      have hkey := hdistinct.1 s hs
      rw [hsame r s d hcode hother] at hkey
      cases hkey
    rw [List.length_erase_of_mem hc] at hrest
    have hpos := List.length_pos_of_mem hc
    rw [List.length_cons]
    omega

theorem sameKey_of_whole? {a b : Json} {n : Int} (ha : a.whole? = some n) (hb : b.whole? = some n) :
    a.sameKey b = true := by
  have hratio {v : Json} (hv : v.whole? = some n) : v.exactRatio? = some (n, 1) := by
    cases v <;> simp_all [Json.whole?, Json.exactRatio?]
  have hnumber : Json.sameNumber a b = true := by
    unfold Json.sameNumber
    split
    · cases ha
    · rw [hratio ha, hratio hb]
      exact beq_self_eq_true _
  unfold Json.sameKey
  split
  · rfl
  · cases ha
  · exact hnumber

theorem itemAt_eq_ok {items : List Json} {position : Int} {item : Json}
    (h : itemAt items position = .ok item) :
    0 ≤ position + items.length ∧ position + items.length < 2 * items.length := by
  rw [itemAt] at h
  by_cases hnegative : position < 0
  · simp only [if_pos hnegative] at h
    split at h
    · cases h
    · simp only [Int.ofNat_eq_natCast] at *
      omega
  · simp only [if_neg hnegative] at h
    split at h
    · next found hfound =>
      have hlt := (List.getElem?_eq_some_iff.1 hfound).1
      omega
    · cases h

/-- A schema in an object is found under its name. -/
theorem entryOf_obj {members : Json.Members} {reference schema : Json}
    (h : entryOf (.obj members) reference = .ok schema) :
    ∃ name, reference = .str name ∧ name ∈ Json.keys members := by
  unfold entryOf at h
  dsimp only at h
  split at h
  · next name =>
    split at h
    · next found hfound =>
      exact ⟨name, rfl, Ordered.has_iff.1 (Option.isSome_of_eq_some hfound)⟩
    · cases h
  · split at h
    · cases h
    · cases h

/-- A schema in a list is found at its position. -/
theorem entryOf_list {schemas reference schema : Json} (hnot : ∀ members, schemas ≠ .obj members)
    (h : entryOf schemas reference = .ok schema) :
    ∃ items position, schemas.elements = .ok items ∧ reference.whole? = some position ∧
      itemAt items position = .ok schema := by
  unfold entryOf at h
  split at h
  · next members => exact absurd rfl (hnot members)
  · split at h
    · next position items hposition hitems => exact ⟨items, position, hitems, hposition, h⟩
    · cases h
  · split at h
    · next position items hposition hitems => exact ⟨items, position, hitems, hposition, h⟩
    · cases h
  · cases h

/-- If a reference names a schema, the schemas are a collection. -/
theorem schemas_of_resolve {body reference schema : Json} (h : resolve body reference = .ok schema) :
    ∃ schemas items, schemasOf body = .ok schemas ∧ schemas.elements = .ok items := by
  obtain ⟨schemas, hschemas, hentry⟩ := bind_eq_ok.1 h
  by_cases hobject : ∃ members, schemas = .obj members
  · obtain ⟨members, rfl⟩ := hobject
    exact ⟨_, _, hschemas, rfl⟩
  · obtain ⟨items, -, hitems, -⟩ := entryOf_list (not_exists.1 hobject) hentry
    exact ⟨schemas, items, hschemas, hitems⟩

theorem entryOf_of_resolve {body schemas reference schema : Json}
    (hschemas : schemasOf body = .ok schemas) (h : resolve body reference = .ok schema) :
    entryOf schemas reference = .ok schema := by
  rwa [resolve, hschemas] at h

/-- References that name schemas and are different keys are no more than can be different. -/
theorem length_le_referenceCount {body : Json} {seen : List Json}
    (hdistinct : seen.Pairwise fun a b => a.sameKey b = false)
    (hresolved : ∀ r ∈ seen, ∃ schema, resolve body r = .ok schema) :
    seen.length ≤ ValueType.referenceCount body := by
  by_cases hnil : seen = []
  · rw [hnil]
    exact Nat.zero_le _
  obtain ⟨r, hr⟩ := List.exists_mem_of_ne_nil seen hnil
  obtain ⟨schema, hschema⟩ := hresolved r hr
  obtain ⟨schemas, items, hschemas, hitems⟩ := schemas_of_resolve hschema
  have hcount : ValueType.referenceCount body = 2 * items.length := by
    rw [ValueType.referenceCount, hschemas]
    dsimp only
    rw [hitems]
  rw [hcount]
  by_cases hobject : ∃ members, schemas = .obj members
  · -- The references are the names of different members.
    obtain ⟨members, rfl⟩ := hobject
    have hnames : seen.length ≤ (Json.keys members).length := by
      refine length_le_of_codes (fun r name => r = .str name) ?_ ?_ hdistinct
      · rintro a b name rfl rfl
        exact beq_self_eq_true name
      · intro r hr
        obtain ⟨schema, h⟩ := hresolved r hr
        obtain ⟨name, hname, hmem⟩ := entryOf_obj (entryOf_of_resolve hschemas h)
        exact ⟨name, hmem, hname⟩
    cases hitems
    rw [Json.keys, List.length_map] at hnames
    rw [List.length_map]
    omega
  · -- The references are different positions, counted from one of the two ends.
    have hpositions : seen.length ≤ (List.range (2 * items.length)).length := by
      refine length_le_of_codes
        (fun r (code : Nat) => r.whole? = some ((code : Int) - items.length)) ?_ ?_ hdistinct
      · intro a b code ha hb
        exact sameKey_of_whole? ha hb
      · intro r hr
        obtain ⟨schema, h⟩ := hresolved r hr
        obtain ⟨found, position, hfound, hposition, hitem⟩ :=
          entryOf_list (not_exists.1 hobject) (entryOf_of_resolve hschemas h)
        rw [hitems] at hfound
        cases hfound
        obtain ⟨hlow, hhigh⟩ := itemAt_eq_ok hitem
        refine ⟨(position + items.length).toNat, List.mem_range.2 (by omega), ?_⟩
        rw [hposition]
        congr 1
        omega
    rwa [List.length_range] at hpositions

namespace ValueType

/-! ## Finding the type -/

/-- There is fuel for all references that can still come on a way. -/
structure IsEnough (body : Json) (fuel : Nat) (seen : List Json) : Prop where
  total : fuel + seen.length = referenceCount body + 2
  distinct : seen.Pairwise fun a b => a.sameKey b = false
  resolved : ∀ r ∈ seen, ∃ schema, resolve body r = .ok schema

theorem IsEnough.ne_zero {body : Json} {fuel : Nat} {seen : List Json}
    (h : IsEnough body fuel seen) : fuel ≠ 0 := by
  have hlength := length_le_referenceCount h.distinct h.resolved
  have htotal := h.total
  omega

theorem IsEnough.next {body : Json} {fuel : Nat} {seen : List Json} {reference resolved : Json}
    (h : IsEnough body (fuel + 1) seen) (hnew : seen.any reference.sameKey = false)
    (hresolved : resolve body reference = .ok resolved) :
    IsEnough body fuel (reference :: seen) where
  total := by
    have htotal := h.total
    rw [List.length_cons]
    omega
  distinct := by
    refine List.pairwise_cons.2 ⟨fun other hother => ?_, h.distinct⟩
    exact Bool.eq_false_iff.2 (List.any_eq_false.1 hnew other hother)
  resolved := List.forall_mem_cons.2 ⟨⟨resolved, hresolved⟩, h.resolved⟩

theorem isEnough_start (body : Json) : IsEnough body (referenceCount body + 2) [] where
  total := rfl
  distinct := List.Pairwise.nil
  resolved _ hr := absurd hr List.not_mem_nil

theorem ofItems_eq (follow : Json → Except Fault ValueType) (members : Json.Members) :
    ofItems follow members =
      match Json.lookup "items" members with
      | some items => ofSchemaWith follow items
      | none => .ok any := by
  induction members with
  | nil =>
    rw [ofItems]
    rfl
  | cons p members ih =>
    obtain ⟨key, value⟩ := p
    rw [ofItems, Json.lookup, List.lookup_cons]
    by_cases hkey : key = "items"
    · rw [if_pos hkey, beq_iff_eq.2 hkey.symm]
    · rw [if_neg hkey, beq_eq_false_iff_ne.2 (Ne.symm hkey), ih]
      rfl

theorem same_str_iff {value : Json} {s : String} : value.same (.str s) = true ↔ value = .str s := by
  cases value with
  | str t => simp [Json.same, Json.sameKey]
  | _ => simp [Json.same, Json.sameKey, Json.sameNumber, Json.exactRatio?]

/-- What is done with a schema object: its reference is followed, its type has the wrong shape, the
type of its items is found, or its type is found at once. -/
theorem ofSchemaWith_obj (follow : Json → Except Fault ValueType) (members : Json.Members) :
    (∃ reference, Json.lookup "$ref" members = some reference ∧
        ofSchemaWith follow (.obj members) = follow reference) ∨
      (Json.lookup "$ref" members = none ∧ (Json.getOr members "type" .null).isScalar = false ∧
        ofSchemaWith follow (.obj members) = .error .shape) ∨
      (Json.lookup "$ref" members = none ∧ Json.lookup "type" members = some (.str "array") ∧
        ofSchemaWith follow (.obj members) = (ofItems follow members).map list) ∨
      (Json.lookup "$ref" members = none ∧ (Json.getOr members "type" .null).isScalar = true ∧
        Json.lookup "type" members ≠ some (.str "array") ∧
        ∃ found, ofSchemaWith follow (.obj members) = .ok found) := by
  have harray : (Json.getOr members "type" .null).same (.str "array") = true ↔
      Json.lookup "type" members = some (.str "array") := by
    rw [same_str_iff, Json.getOr]
    cases Json.lookup "type" members <;> simp
  have hnamed {named : ValueType} (h : ofName? (Json.getOr members "type" .null) = some named) :
      Json.lookup "type" members ≠ some (.str "array") := by
    intro hlookup
    rw [Json.getOr, hlookup] at h
    cases h
  rw [ofSchemaWith]
  by_cases hempty : members.isEmpty = true
  · rw [if_pos hempty]
    obtain rfl := List.isEmpty_iff.1 hempty
    exact .inr (.inr (.inr ⟨rfl, rfl, by simp [Json.lookup], any, rfl⟩))
  rw [if_neg hempty]
  cases hreference : Json.lookup "$ref" members with
  | some reference => exact .inl ⟨reference, rfl, rfl⟩
  | none =>
    dsimp only
    cases hscalar : (Json.getOr members "type" .null).isScalar with
    | false => exact .inr (.inl ⟨rfl, rfl, rfl⟩)
    | true =>
      rw [Bool.not_true, if_neg Bool.false_ne_true]
      cases hname : ofName? (Json.getOr members "type" .null) with
      | some named => exact .inr (.inr (.inr ⟨rfl, rfl, hnamed hname, named, rfl⟩))
      | none =>
        dsimp only
        by_cases hlist : (Json.getOr members "type" .null).same (.str "array") = true
        · rw [if_pos hlist]
          exact .inr (.inr (.inl ⟨rfl, harray.1 hlist, rfl⟩))
        · rw [if_neg hlist]
          refine .inr (.inr (.inr ⟨rfl, rfl, fun h => hlist (harray.2 h), ?_⟩))
          split
          · exact ⟨object, rfl⟩
          · exact ⟨any, rfl⟩

/-- A property of a schema may be shown under the assumption that its items have it. -/
theorem items_induction {P : Json → Prop}
    (h : ∀ schema, (∀ members items, schema = .obj members →
      Json.lookup "items" members = some items → P items) → P schema) (schema : Json) :
    P schema := by
  -- A value found under a key is smaller than the object, whatever its constructor.
  induction hsize : sizeOf schema using Nat.strongRecOn generalizing schema with
  | ind n ih =>
    refine h schema fun members items hschema hitems => ih (sizeOf items) ?_ items rfl
    have hlt := List.sizeOf_lt_of_mem (Ordered.mem_of_get? hitems)
    rw [← hsize, hschema, Json.obj.sizeOf_spec]
    rw [Prod.mk.sizeOf_spec] at hlt
    omega

variable {escapes : Pattern.Fault → Bool} {E : Fault → Prop} {body : Json}

/-- Finding a type tells whether the schemas on the way have the shapes that are needed, if what
follows references does. The induction is on the items. -/
theorem tells_ofSchemaWith {seen : List Json} {follow : Json → Except Fault ValueType}
    (hfollow : ∀ members reference, Json.lookup "$ref" members = some reference →
      Tells E (IsShapedFrom body ⟨seen, .obj members⟩) (follow reference)) (schema : Json) :
    Tells E (IsShapedFrom body ⟨seen, schema⟩) (ofSchemaWith follow schema) := by
  induction schema using items_induction with
  | h schema ih =>
    by_cases hobject : ∃ members, schema = .obj members
    · obtain ⟨members, rfl⟩ := hobject
      rcases ofSchemaWith_obj follow members with ⟨reference, hreference, heq⟩ |
        ⟨hplain, htype, heq⟩ | ⟨hplain, harray, heq⟩ | ⟨hplain, htype, harray, found, heq⟩
      · rw [heq]
        exact hfollow members reference hreference
      · rw [heq]
        refine .refused (fun h => ?_) _
        rw [(Place.isShaped_plain hplain).1 (isShapedFrom_iff.1 h).1] at htype
        cases htype
      · rw [heq, ofItems_eq]
        have hscalar : (Json.getOr members "type" .null).isScalar = true := by
          rw [Json.getOr, harray]
          rfl
        have hplace : (⟨seen, .obj members⟩ : Place).IsShaped body :=
          (Place.isShaped_plain hplain).2 hscalar
        -- Without items the way ends here, and with items it goes on there and nowhere else.
        cases hitems : Json.lookup "items" members with
        | none =>
          refine .ok ((isShapedFrom_last fun next hnext => ?_).2 hplace) _
          obtain ⟨-, items, hfound, -⟩ := (step_plain hplain).1 hnext
          rw [hitems] at hfound
          cases hfound
        | some items =>
          refine ((ih members items rfl hitems).map list).congr (isShapedFrom_next hplace ?_)
          intro other
          rw [step_plain hplain, hitems]
          simp [harray]
      · rw [heq]
        refine .ok ((isShapedFrom_last fun next hnext => ?_).2
          ((Place.isShaped_plain hplain).2 htype)) found
        exact harray ((step_plain hplain).1 hnext).1
    · rw [not_exists] at hobject
      have hplace : IsShapedFrom body ⟨seen, schema⟩ ↔ schema.isGiven = false := by
        rw [isShapedFrom_last fun next => not_step_other hobject, Place.isShaped_other hobject]
      have heq : ofSchemaWith follow schema =
          if schema.isGiven then .error .shape else .ok any := by
        cases schema with
        | obj members => exact absurd rfl (hobject members)
        | _ => rw [ofSchemaWith]; exact fun members h => by cases h
      rw [heq]
      split
      · next hgiven =>
        refine .refused (fun h => ?_) _
        rw [hplace.1 h] at hgiven
        cases hgiven
      · next hgiven => exact .ok (hplace.2 (Bool.eq_false_iff.2 hgiven)) any

theorem isDescriptive_of_resolve {reference : Json} {fault : Fault}
    (hcan : CanBeResolved body reference) (h : resolve body reference = .error fault) :
    fault.isDescriptive = true := by
  obtain ⟨hscalar, schemas, hschemas, hentry⟩ := hcan
  rw [resolve, hschemas] at h
  rcases hentry with ⟨members, rfl⟩ | ⟨schema, hfound⟩
  · -- In an object a name may be missing, and nothing else can go wrong.
    rw [ok_bind] at h
    unfold entryOf at h
    dsimp only at h
    split at h
    · split at h
      · cases h
      · cases h
        rfl
    · rw [if_pos hscalar] at h
      cases h
      rfl
  · rw [ok_bind, hfound] at h
    cases h

theorem tells_ofSchemaFrom (hE : Fault.AreExpected escapes E) {fuel : Nat} {seen : List Json}
    (h : IsEnough body fuel seen) (schema : Json) :
    Tells E (IsShapedFrom body ⟨seen, schema⟩) (ofSchemaFrom body fuel seen schema) := by
  induction fuel generalizing seen schema with
  -- The fuel never runs out: there would be more references than can be different.
  | zero => exact absurd rfl h.ne_zero
  | succ fuel ih =>
    rw [ofSchemaFrom]
    refine tells_ofSchemaWith (fun members reference hreference => ?_) schema
    have hplace := @Place.isShaped_reference body seen members reference hreference
    split
    · next hscalar =>
      refine .refused (fun hshaped => ?_) _
      rw [(hplace.1 (isShapedFrom_iff.1 hshaped).1).1] at hscalar
      cases hscalar
    · next hscalar =>
      rw [Bool.not_eq_true, Bool.not_eq_false'] at hscalar
      split
      · -- A reference that was followed before ends the way.
        next hseen =>
        refine .ok ((isShapedFrom_last fun next hnext => ?_).2 (hplace.2 ⟨hscalar, .inl hseen⟩)) _
        obtain ⟨hnew, -⟩ := (step_reference hreference).1 hnext
        rw [hseen] at hnew
        cases hnew
      · next hnew =>
        rw [Bool.not_eq_true] at hnew
        cases hresolved : resolve body reference with
        | error fault =>
          refine .failed fun hshaped => ?_
          have hcan := (hplace.1 (isShapedFrom_iff.1 hshaped).1).2
          rw [hnew] at hcan
          exact hE.descriptive _ (isDescriptive_of_resolve (hcan.resolve_left (by simp)) hresolved)
        | ok resolved =>
          obtain ⟨schemas, hschemas, hentry⟩ := bind_eq_ok.1 hresolved
          have hcan : CanBeResolved body reference :=
            ⟨hscalar, schemas, hschemas, .inr ⟨resolved, hentry⟩⟩
          refine (ih (h.next hnew hresolved) resolved).congr
            (isShapedFrom_next (hplace.2 ⟨hscalar, .inr hcan⟩) fun other => ?_)
          rw [step_reference hreference, hresolved]
          simp [hnew]

/-- Finding the type of a schema tells whether all schemas on the way from it have the shapes that
are needed. -/
theorem tells_ofSchema (hE : Fault.AreExpected escapes E) (body schema : Json) :
    Tells E (IsShapedFrom body ⟨[], schema⟩) (ofSchema body schema) :=
  tells_ofSchemaFrom hE (isEnough_start body) schema

end ValueType
end ApiDiscovery.Schema
