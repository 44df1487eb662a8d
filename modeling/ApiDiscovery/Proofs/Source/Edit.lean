import ApiDiscovery.Proofs.Source.Class
import Mathlib.Data.List.Nodup

/-!
# Calls on a class

Fields, properties, methods and attributes of a class share one set of names. Whatever operations are
called on a class with distinct names, and whatever comes of them, its names stay distinct; each call
adds exactly what it says, or it is refused and leaves the class as it was
(`Class.calls_keep_names_distinct`).
-/

namespace ApiDiscovery.Source

/-! ## Members -/

/-- The name of a member or an attribute. -/
def Member.name : Member → String
  | field f => f.name
  | property p => p.name
  | method m => m.name
  | backing name => name

namespace Class

/-- The members of a class: its fields, then its properties, then its methods. -/
def members (c : Class) : List Member :=
  c.fields.map .field ++ c.properties.map .property ++ c.methods.map .method

theorem names_members (c : Class) : c.members.map Member.name = c.memberNames := by
  simp only [members, memberNames, List.map_append, List.map_map]
  rfl

theorem find?_eq (c : Class) (name : String) :
    c.find? name = c.members.find? fun m => m.name = name := by
  simp only [find?, members, List.find?_append, List.find?_map]
  show _ = (((c.fields.find? fun f => f.name = name).map Member.field).or
    ((c.properties.find? fun p => p.name = name).map Member.property)).or
      ((c.methods.find? fun m => m.name = name).map Member.method)
  cases c.fields.find? fun f => f.name = name with
  | some field => rfl
  | none =>
    cases c.properties.find? fun p => p.name = name with
    | some property => rfl
    | none => rfl

/-- In a class with distinct names a member is found under exactly those names that are not the name
of an attribute. -/
theorem find?_iff {c : Class} (hnodup : c.names.Nodup) (name : String) :
    (∃ member ∈ c.members, c.find? name = some member ∧ member.name = name) ↔
      name ∈ c.names ∧ name ∉ Ordered.names c.attributes := by
  rw [names, List.nodup_append] at hnodup
  obtain ⟨-, -, hapart⟩ := hnodup
  constructor
  · rintro ⟨member, hmember, -, rfl⟩
    have hname : member.name ∈ c.memberNames := by
      rw [← names_members]
      exact List.mem_map_of_mem hmember
    exact ⟨List.mem_append_left _ hname, fun hattribute => hapart _ hname _ hattribute rfl⟩
  · rintro ⟨hname, hattribute⟩
    have hmember := (List.mem_append.1 hname).resolve_right hattribute
    rw [← names_members, List.mem_map] at hmember
    obtain ⟨member, hmember, hsame⟩ := hmember
    obtain ⟨found, hfound⟩ := Option.isSome_iff_exists.1
      (List.find?_isSome.2 ⟨member, hmember, decide_eq_true hsame⟩ :
        (c.members.find? fun m => m.name = name).isSome = true)
    refine ⟨found, List.mem_of_find?_eq_some hfound, (find?_eq c name).trans hfound, ?_⟩
    simpa using List.find?_some hfound

/-! ## One call -/

/-- A class refuses an operation if a name that it adds is empty or in use; the name of the
attribute behind a property is never empty. -/
def Operation.IsRefusedBy (c : Class) : Operation → Prop
  | field name _ => name = "" ∨ name ∈ c.names
  | backingField name _ => Naming.backingField name ∈ c.names
  | autoProperty name _ _ _ => name = "" ∨ name ∈ c.names ∨ Naming.backingField name ∈ c.names
  | readOnlyProperty name _ _ _ => name = "" ∨ name ∈ c.names
  | method added => added.name = "" ∨ added.name ∈ c.names

section Call

variable {c : Class} {operation : Operation}

theorem isRefusedBy_iff :
    operation.IsRefusedBy c ↔ ∃ name ∈ operation.newNames, name = "" ∨ name ∈ c.names := by
  cases operation <;>
    simp [Operation.IsRefusedBy, Operation.newNames, backingField_ne_empty, or_assoc]

theorem free_of_not_isRefusedBy (h : ¬operation.IsRefusedBy c) :
    ∀ name ∈ operation.newNames, name ≠ "" ∧ name ∉ c.names := by
  intro name hname
  exact not_or.1 fun htaken => h (isRefusedBy_iff.2 ⟨name, hname, htaken⟩)

/-- A call is refused for one of its names, and the class is as it was; or it adds what it says. -/
theorem edit_cases (c : Class) (operation : Operation) :
    (operation.IsRefusedBy c ∧ ∃ name ∈ operation.newNames, ∃ fault,
        Refuses c name fault ∧ operation.edit c = .error fault c) ∨
      (¬operation.IsRefusedBy c ∧
        operation.edit c = .ok (operation.added c).1 (operation.added c).2) := by
  by_cases h : operation.IsRefusedBy c
  · exact .inl ⟨h, edit_of_not_free (isRefusedBy_iff.1 h)⟩
  · exact .inr ⟨h, edit_of_free (free_of_not_isRefusedBy h)⟩

theorem nodup_newNames (operation : Operation) : operation.newNames.Nodup := by
  cases operation with
  | autoProperty name type doc initial =>
    refine List.nodup_cons.2 ⟨fun hmem => ?_, List.nodup_singleton _⟩
    have hlength := congrArg String.length (List.mem_singleton.1 hmem)
    rw [Naming.backingField, String.length_append] at hlength
    have hone : ("_" : String).length = 1 := rfl
    omega
  | _ => exact List.nodup_singleton _

theorem names_added (c : Class) (operation : Operation) :
    (operation.added c).2.names.Perm (operation.newNames ++ c.names) := by
  -- The new names stand in the middle, at the end of their kind, so they are counted.
  rw [List.perm_iff_count]
  intro name
  cases operation <;>
    simp only [Operation.added, Operation.newNames, names, memberNames, Ordered.names,
      List.map_append, List.map_cons, List.map_nil, List.count_append, List.count_cons,
      List.count_nil] <;> omega

theorem nodup_after (h : c.names.Nodup) : (c.after operation).names.Nodup := by
  rcases edit_cases c operation with ⟨-, -, -, fault, -, hedit⟩ | ⟨hfree, hedit⟩
  · rw [after, hedit]
    exact h
  · rw [after, hedit]
    -- New names are distinct, old names are, and no new one is an old one.
    refine (names_added c operation).nodup_iff.2 ?_
    refine List.nodup_append.2 ⟨nodup_newNames operation, h, ?_⟩
    rintro name hname _ hused rfl
    exact (free_of_not_isRefusedBy hfree name hname).2 hused

end Call

/-! ## Calls in turn -/

/-- The class after operations were called on it one after another, whatever came of each. -/
def afterAll (c : Class) (operations : List Operation) : Class := operations.foldl after c

theorem nodup_afterAll {c : Class} (h : c.names.Nodup) (operations : List Operation) :
    (c.afterAll operations).names.Nodup := by
  induction operations generalizing c with
  | nil => exact h
  | cons operation operations ih => exact ih (nodup_after h)

/-- However many operations have been called on a class with distinct names, its names are distinct
then. The next call is refused exactly if one of its names is empty or in use; a refused call says
which name it is refused for and leaves the class as it was, and any other adds exactly what it says
at the end. A member is found under exactly those names of the class that are no attribute's. -/
theorem calls_keep_names_distinct {c : Class} (h : c.names.Nodup) (operations : List Operation) :
    let d := c.afterAll operations
    d.names.Nodup ∧
      (∀ operation : Operation,
        ((∃ fault left, operation.edit d = .error fault left) ↔ operation.IsRefusedBy d) ∧
        (∀ fault left, operation.edit d = .error fault left →
          left = d ∧ ∃ name ∈ operation.newNames, Refuses d name fault) ∧
        ∀ member changed, operation.edit d = .ok member changed →
          (member, changed) = operation.added d) ∧
      ∀ name, (∃ member ∈ d.members, d.find? name = some member ∧ member.name = name) ↔
        name ∈ d.names ∧ name ∉ Ordered.names d.attributes := by
  intro d
  have hnodup : d.names.Nodup := nodup_afterAll h operations
  refine ⟨hnodup, fun operation => ?_, find?_iff hnodup⟩
  rcases edit_cases d operation with ⟨hrefused, name, hname, fault, hrefuses, hedit⟩ | ⟨hfree, hedit⟩
  · refine ⟨iff_of_true ⟨fault, d, hedit⟩ hrefused, fun other left hother => ?_, ?_⟩
    · rw [hedit] at hother
      cases hother
      exact ⟨rfl, name, hname, hrefuses⟩
    · intro member changed hother
      rw [hedit] at hother
      cases hother
  · refine ⟨iff_of_false ?_ hfree, ?_, fun member changed hother => ?_⟩
    · rintro ⟨fault, left, hother⟩
      rw [hedit] at hother
      cases hother
    · intro fault left hother
      rw [hedit] at hother
      cases hother
    · rw [hedit] at hother
      cases hother
      rfl

/-- A class with an attribute that stands where that of a property `name` would. -/
def sampleTaken : Class where
  name := "C"
  attributes := [("_name", "None")]

theorem calls_keep_names_distinct_sampleTaken :
    let operations : List Operation := [.autoProperty "name" "str" "" "None", .field "list" .null,
      .readOnlyProperty "list" "str" "1" "", .autoProperty "size" "int" "" "0", .field "" .null]
    sampleTaken.names.Nodup ∧
      (sampleTaken.afterAll operations).names = ["list", "size", "_name", "_size"] ∧
      (sampleTaken.afterAll operations).names.Nodup := by
  have hnodup : sampleTaken.names.Nodup := by decide
  exact ⟨hnodup, by decide, (calls_keep_names_distinct hnodup _).1⟩

end Class
end ApiDiscovery.Source
