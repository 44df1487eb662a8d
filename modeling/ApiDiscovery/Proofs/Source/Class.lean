import ApiDiscovery.Proofs.Ordered
import ApiDiscovery.Proofs.Outcome
import ApiDiscovery.Source.Class
import Mathlib.Data.List.Basic

/-!
# Adding to a class

A name passes the check of a class exactly if it is not empty and the class does not use it
(`checkName_eq_ok`). An operation with such names succeeds and adds what it says, and the names of
the class are then the old ones and the new ones (`names_withMethod`), so that methods with distinct
names are added one after another (`applyAll_methods`).
-/

namespace ApiDiscovery.Source.Class

open Outcome

variable (c : Class)

/-! ## Names -/

theorem uses_eq_true (name : String) : c.uses name = true ↔ name ∈ c.names := by
  rw [uses, List.contains_iff_mem]

/-- A name may be added exactly if it is not empty and not in use. -/
theorem checkName_eq_ok (kind : MemberKind) (name : String) :
    c.checkName kind name = .ok () ↔ name ≠ "" ∧ name ∉ c.names := by
  rw [checkName]
  by_cases hempty : name = ""
  · simp [hempty]
  · by_cases hused : name ∈ c.names
    · simp [hempty, hused, (uses_eq_true c name).2 hused]
    · simp [hempty, hused, uses_eq_true]

theorem backingField_ne_empty (name : String) : Naming.backingField name ≠ "" := by
  simp [Naming.backingField]

theorem backingField_injective {a b : String}
    (h : Naming.backingField a = Naming.backingField b) : a = b := by
  rw [Naming.backingField, Naming.backingField, ← String.toList_inj, String.toList_append,
    String.toList_append, List.append_cancel_left_eq] at h
  exact String.toList_inj.1 h

theorem mem_attributes_names {name : String} (h : name ∈ Ordered.names c.attributes) :
    name ∈ c.names :=
  List.mem_append_right _ h

/-! ## Steps -/

section Steps

variable {c} {c' : Class} {α β : Type}

theorem bind_of_ok {x : Edit α} {a : α} (h : x c = .ok a c') (f : α → Edit β) :
    (x >>= f) c = f a c' := by
  show EStateM.bind x f c = f a c'
  rw [EStateM.bind, h]

theorem bind_of_error {x : Edit α} {fault : Fault} (h : x c = .error fault c') (f : α → Edit β) :
    (x >>= f) c = .error fault c' := by
  show EStateM.bind x f c = .error fault c'
  rw [EStateM.bind, h]

theorem map_of_ok {x : Edit α} {a : α} (h : x c = .ok a c') (f : α → β) :
    (f <$> x) c = .ok (f a) c' := by
  show EStateM.map f x c = .ok (f a) c'
  rw [EStateM.map, h]

theorem map_of_error {x : Edit α} {fault : Fault} (h : x c = .error fault c') (f : α → β) :
    (f <$> x) c = .error fault c' := by
  show EStateM.map f x c = .error fault c'
  rw [EStateM.map, h]

/-- The fault says what is wrong with a name for a member. -/
inductive Refuses (c : Class) (name : String) : Fault → Prop where
  | empty (kind : MemberKind) (hname : name = "") : Refuses c name (.emptyName kind)
  | used (kind : MemberKind) (hname : name ∈ c.names) : Refuses c name (.usedName kind name c.name)

theorem check_of_free {kind : MemberKind} {name : String} (hname : name ≠ "")
    (hfree : name ∉ c.names) : check kind name c = .ok () c := by
  rw [check, (checkName_eq_ok c kind name).2 ⟨hname, hfree⟩]

theorem check_of_taken (kind : MemberKind) {name : String} (h : name = "" ∨ name ∈ c.names) :
    ∃ fault, Refuses c name fault ∧ check kind name c = .error fault c := by
  rw [check, checkName]
  by_cases hempty : name = ""
  · rw [if_pos hempty]
    exact ⟨_, .empty kind hempty, rfl⟩
  · have hused := h.resolve_left hempty
    rw [if_neg hempty, if_pos ((uses_eq_true c name).2 hused)]
    exact ⟨_, .used kind hused, rfl⟩

/-- Steps that start with a check of a name that is taken do nothing else. -/
theorem edit_of_taken {kind : MemberKind} {name : String} (h : name = "" ∨ name ∈ c.names)
    (f : Unit → Edit α) :
    ∃ fault, Refuses c name fault ∧ (check kind name >>= f) c = .error fault c := by
  obtain ⟨fault, hrefuses, hcheck⟩ := check_of_taken kind h
  exact ⟨fault, hrefuses, bind_of_error hcheck f⟩

end Steps

/-! ## Single operations -/

/-- The names that an operation adds to a class. -/
def Operation.newNames : Operation → List String
  | field name _ => [name]
  | backingField name _ => [Naming.backingField name]
  | autoProperty name _ _ _ => [name, Naming.backingField name]
  | readOnlyProperty name _ _ _ => [name]
  | method added => [added.name]

/-- What an operation adds to a class, and the class with it at the end. -/
def Operation.added (c : Class) : Operation → Member × Class
  | field name value =>
    let added : Field := ⟨name, value⟩
    (.field added, { c with fields := c.fields ++ [added] })
  | backingField name initial =>
    (.backing (Naming.backingField name),
      { c with attributes := c.attributes ++ [(Naming.backingField name, initial)] })
  | autoProperty name type doc initial =>
    let added : Property :=
      { name := name, type := type, doc := doc, field := some (Naming.backingField name),
        settable := true }
    (.property added,
      { c with
        attributes := c.attributes ++ [(Naming.backingField name, initial)]
        properties := c.properties ++ [added] })
  | readOnlyProperty name type getter doc =>
    let added : Property := { name := name, type := type, doc := doc, getter := some getter }
    (.property added, { c with properties := c.properties ++ [added] })
  | method added => (.method added, { c with methods := c.methods ++ [added] })

section Edit

variable {c} {operation : Operation}

theorem addBackingField_of_free {name : String} (initial : String)
    (hfree : Naming.backingField name ∉ c.names) :
    addBackingField name initial c =
      .ok (Naming.backingField name)
        { c with attributes := c.attributes ++ [(Naming.backingField name, initial)] } := by
  have hattribute : Naming.backingField name ∉ Ordered.names c.attributes :=
    fun h => hfree (mem_attributes_names c h)
  rw [addBackingField, bind_of_ok (check_of_free (backingField_ne_empty name) hfree),
    ← Ordered.insert_of_not_mem initial hattribute]
  rfl

/-- An operation whose names are free adds what it says. -/
theorem edit_of_free (h : ∀ name ∈ operation.newNames, name ≠ "" ∧ name ∉ c.names) :
    operation.edit c = .ok (operation.added c).1 (operation.added c).2 := by
  cases operation with
  | field name value =>
    obtain ⟨hname, hfree⟩ := h name (List.mem_singleton.2 rfl)
    have hadd : addField name value c =
        .ok ⟨name, value⟩ { c with fields := c.fields ++ [⟨name, value⟩] } :=
      bind_of_ok (check_of_free hname hfree) _
    exact map_of_ok hadd _
  | backingField name initial =>
    obtain ⟨-, hfree⟩ := h _ (List.mem_singleton.2 rfl)
    exact map_of_ok (addBackingField_of_free initial hfree) _
  | autoProperty name type doc initial =>
    obtain ⟨hname, hfree⟩ := h name List.mem_cons_self
    obtain ⟨-, hbacking⟩ := h (Naming.backingField name) (List.mem_cons_of_mem _ List.mem_cons_self)
    have hadd := addBackingField_of_free initial hbacking
    refine map_of_ok ((bind_of_ok (check_of_free hname hfree) _).trans ?_) _
    exact bind_of_ok hadd _
  | readOnlyProperty name type getter doc =>
    obtain ⟨hname, hfree⟩ := h name (List.mem_singleton.2 rfl)
    let added : Property := { name := name, type := type, doc := doc, getter := some getter }
    have hadd : addReadOnlyProperty name type getter doc c =
        .ok added { c with properties := c.properties ++ [added] } :=
      bind_of_ok (check_of_free hname hfree) _
    exact map_of_ok hadd _
  | method added =>
    obtain ⟨hname, hfree⟩ := h added.name (List.mem_singleton.2 rfl)
    have hadd : addMethod added c = .ok added { c with methods := c.methods ++ [added] } :=
      bind_of_ok (check_of_free hname hfree) _
    exact map_of_ok hadd _

/-- An operation one of whose names is taken is refused for it, and the class is as it was: all
checks come before anything is added. -/
theorem edit_of_not_free (h : ∃ name ∈ operation.newNames, name = "" ∨ name ∈ c.names) :
    ∃ name ∈ operation.newNames, ∃ fault, Refuses c name fault ∧
      operation.edit c = .error fault c := by
  obtain ⟨name, hmem, htaken⟩ := h
  cases operation with
  | field added value =>
    obtain rfl := List.mem_singleton.1 hmem
    obtain ⟨fault, hrefuses, hedit⟩ := edit_of_taken htaken _
    exact ⟨name, hmem, fault, hrefuses, map_of_error hedit _⟩
  | backingField added initial =>
    obtain rfl := List.mem_singleton.1 hmem
    obtain ⟨fault, hrefuses, hedit⟩ := edit_of_taken htaken _
    exact ⟨_, hmem, fault, hrefuses, map_of_error hedit _⟩
  | autoProperty added type doc initial =>
    by_cases hfirst : added = "" ∨ added ∈ c.names
    · obtain ⟨fault, hrefuses, hedit⟩ := edit_of_taken hfirst _
      exact ⟨added, List.mem_cons_self, fault, hrefuses, map_of_error hedit _⟩
    · rw [not_or] at hfirst
      -- Only the attribute behind the property can be the one that is taken.
      have hbacking : name = Naming.backingField added := by
        rcases List.mem_cons.1 hmem with rfl | hmem
        · exact absurd htaken (not_or.2 hfirst)
        · exact List.mem_singleton.1 hmem
      subst hbacking
      obtain ⟨fault, hrefuses, hedit⟩ := edit_of_taken htaken _
      refine ⟨_, hmem, fault, hrefuses, map_of_error ?_ _⟩
      exact (bind_of_ok (check_of_free hfirst.1 hfirst.2) _).trans (bind_of_error hedit _)
  | readOnlyProperty added type getter doc =>
    obtain rfl := List.mem_singleton.1 hmem
    obtain ⟨fault, hrefuses, hedit⟩ := edit_of_taken htaken _
    exact ⟨name, hmem, fault, hrefuses, map_of_error hedit _⟩
  | method added =>
    obtain rfl := List.mem_singleton.1 hmem
    obtain ⟨fault, hrefuses, hedit⟩ := edit_of_taken htaken _
    exact ⟨_, hmem, fault, hrefuses, map_of_error hedit _⟩

/-- An operation succeeds exactly if its names are free, and then it adds what it says. -/
theorem apply_eq_ok {r : Member × Class} :
    c.apply operation = .ok r ↔
      (∀ name ∈ operation.newNames, name ≠ "" ∧ name ∉ c.names) ∧ operation.added c = r := by
  by_cases h : ∀ name ∈ operation.newNames, name ≠ "" ∧ name ∉ c.names
  · rw [apply, edit_of_free h, Except.ok.injEq, and_iff_right h]
  · have htaken : ∃ name ∈ operation.newNames, name = "" ∨ name ∈ c.names := by
      by_contra hnone
      exact h fun name hname => not_or.1 fun htaken => hnone ⟨name, hname, htaken⟩
    obtain ⟨-, -, fault, -, hedit⟩ := edit_of_not_free htaken
    rw [apply, hedit]
    simp [h]

end Edit

theorem apply_backingField {name : String} (initial : String)
    (hfree : Naming.backingField name ∉ c.names) :
    c.apply (.backingField name initial) =
      .ok (.backing (Naming.backingField name),
        { c with attributes := c.attributes ++ [(Naming.backingField name, initial)] }) :=
  apply_eq_ok.2 ⟨List.forall_mem_singleton.2 ⟨backingField_ne_empty name, hfree⟩, rfl⟩

theorem apply_readOnlyProperty {name : String} (type getter doc : String) (hname : name ≠ "")
    (hfree : name ∉ c.names) :
    c.apply (.readOnlyProperty name type getter doc) =
      .ok (.property { name := name, type := type, doc := doc, getter := some getter },
        { c with properties := c.properties ++
          [{ name := name, type := type, doc := doc, getter := some getter }] }) :=
  apply_eq_ok.2 ⟨List.forall_mem_singleton.2 ⟨hname, hfree⟩, rfl⟩

theorem apply_method {method : Method} (hname : method.name ≠ "")
    (hfree : method.name ∉ c.names) :
    c.apply (.method method) =
      .ok (.method method, { c with methods := c.methods ++ [method] }) :=
  apply_eq_ok.2 ⟨List.forall_mem_singleton.2 ⟨hname, hfree⟩, rfl⟩

/-- An operation that fails is refused for one of its names, and the class is as it was. -/
theorem edit_of_apply_error {operation : Operation} {fault : Fault}
    (h : c.apply operation = .error fault) :
    (∃ name ∈ operation.newNames, Refuses c name fault) ∧ operation.edit c = .error fault c := by
  by_cases htaken : ∃ name ∈ operation.newNames, name = "" ∨ name ∈ c.names
  · obtain ⟨name, hname, found, hrefuses, hedit⟩ := edit_of_not_free htaken
    rw [apply, hedit] at h
    cases h
    exact ⟨⟨name, hname, hrefuses⟩, hedit⟩
  · have hfree : ∀ name ∈ operation.newNames, name ≠ "" ∧ name ∉ c.names := fun name hname =>
      not_or.1 fun hname' => htaken ⟨name, hname, hname'⟩
    rw [apply_eq_ok.2 ⟨hfree, rfl⟩] at h
    cases h

theorem after_of_error {operation : Operation} {fault : Fault}
    (h : c.apply operation = .error fault) : c.after operation = c := by
  rw [after, (edit_of_apply_error c h).2]

/-- No operation renames the class. -/
theorem name_apply {operation : Operation} {member : Member} {changed : Class}
    (h : c.apply operation = .ok (member, changed)) : changed.name = c.name := by
  have hadded := (apply_eq_ok.1 h).2
  cases operation <;> cases hadded <;> rfl

/-! ## Operations in turn -/

theorem applyAll_cons {operation : Operation} {member : Member} {changed : Class}
    (h : c.apply operation = .ok (member, changed)) (rest : List Operation) :
    c.applyAll (operation :: rest) = changed.applyAll rest := by
  rw [applyAll, h]

theorem name_applyAll (operations : List Operation) : (c.applyAll operations).1.name = c.name := by
  induction operations generalizing c with
  | nil => rfl
  | cons operation operations ih =>
    rw [applyAll]
    split
    · next member changed h => exact (ih changed).trans (name_apply c h)
    · next fault h =>
      dsimp only
      rw [after_of_error c h]

theorem name_carryOut (plan : Plan) : (c.carryOut plan).1.name = c.name := by
  have hname := name_applyAll c plan.operations
  rw [carryOut]
  split
  · next h =>
    rw [h] at hname
    exact hname
  · next h =>
    rw [h] at hname
    exact hname

/-- The class with methods added. -/
def withMethods (methods : List Method) : Class := { c with methods := c.methods ++ methods }

theorem names_withMethod (method : Method) :
    (c.withMethods [method]).names.Perm (method.name :: c.names) := by
  rw [List.perm_iff_count]
  intro name
  simp only [withMethods, names, memberNames, List.map_append, List.map_cons, List.map_nil,
    List.count_append, List.count_cons, List.count_nil]
  omega

/-- Methods with names that are not in use are added one after another. -/
theorem applyAll_methods {c : Class} (hnodup : c.names.Nodup) {methods : List Method}
    (hnames : (methods.map Method.name).Nodup)
    (hfree : ∀ m ∈ methods, m.name ≠ "" ∧ m.name ∉ c.names) :
    c.applyAll (methods.map Operation.method) = (c.withMethods methods, none) ∧
      (c.withMethods methods).names.Nodup := by
  induction methods generalizing c with
  | nil =>
    have hsame : c.withMethods [] = c := by rw [withMethods, List.append_nil]
    rw [hsame]
    exact ⟨rfl, hnodup⟩
  | cons method methods ih =>
    rw [List.map_cons, List.nodup_cons] at hnames
    obtain ⟨hname, hunused⟩ := hfree method List.mem_cons_self
    have hperm := names_withMethod c method
    have hnodup' : (c.withMethods [method]).names.Nodup :=
      hperm.nodup_iff.2 (List.nodup_cons.2 ⟨hunused, hnodup⟩)
    -- The class has one name more now, which is not that of a method still to come.
    have hfree' : ∀ m ∈ methods, m.name ≠ "" ∧ m.name ∉ (c.withMethods [method]).names := by
      intro m hm
      obtain ⟨hne, hnot⟩ := hfree m (List.mem_cons_of_mem method hm)
      refine ⟨hne, fun hmem => ?_⟩
      rcases List.mem_cons.1 (hperm.mem_iff.1 hmem) with heq | hmem
      · exact hnames.1 (heq ▸ List.mem_map_of_mem hm)
      · exact hnot hmem
    have hall : (c.withMethods [method]).withMethods methods = c.withMethods (method :: methods) := by
      simp [withMethods]
    rw [List.map_cons, applyAll_cons c (apply_method c hname hunused), ← hall]
    exact ih hnodup' hnames.2 hfree'

end ApiDiscovery.Source.Class
