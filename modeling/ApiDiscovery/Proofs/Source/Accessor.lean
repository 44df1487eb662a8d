import ApiDiscovery.Proofs.Naming.Allocator
import ApiDiscovery.Proofs.Naming.Words
import ApiDiscovery.Proofs.Source.Class
import ApiDiscovery.Source.Accessor

/-!
# Accessors never collide

The names of accessors are allocated all at once, and the allocator does not hear of the attributes
that are added behind them. Still no name is used twice (`applyAll_accessorsFrom`): the allocated
names are open, so that none of them is an attribute (`Covers`), as long as no two children want a
lone underscore, whose numbered form would look like the attribute of a number.
-/

namespace ApiDiscovery.Source

open Naming (Allocator backingField isOpen)

/-! ## Allocated names -/

/-- A numbered name is no lone underscore. -/
theorem numbered_ne_underscore {name : String} (h : isOpen name.toList = true) (n : Nat) :
    Allocator.numbered name n ≠ "_" := by
  intro heq
  have hchars := congrArg String.toList heq
  rw [Allocator.toList_numbered] at hchars
  cases hname : name.toList with
  | nil =>
    rw [hname] at h
    cases h
  | cons c rest =>
    rw [hname, List.cons_append] at hchars
    exact List.append_ne_nil_of_right_ne_nil rest (List.cons_ne_nil _ _) (List.cons.inj hchars).2

/-- Names allocated for open names are open, unless a lone underscore gets a number. -/
theorem isOpen_allocate {a : Allocator} {name : String} (hopen : isOpen name.toList = true)
    (hlone : a.uses "_" = true → name ≠ "_") : isOpen (a.allocate name).1.toList = true := by
  rcases Allocator.allocate_cases a name with ⟨-, hname⟩ | ⟨hused, n, hname⟩
  · rw [hname]
    exact hopen
  · have hne : name.toList ≠ ['_'] := by
      intro heq
      obtain rfl : name = "_" := String.toList_inj.1 heq
      exact hlone hused rfl
    rw [hname, Allocator.toList_numbered]
    exact Naming.isOpen_append hopen hne _

theorem eq_underscore_of_allocate {a : Allocator} {name : String}
    (hopen : isOpen name.toList = true) (h : (a.allocate name).1 = "_") : name = "_" := by
  rcases Allocator.allocate_cases a name with ⟨-, hname⟩ | ⟨-, n, hname⟩
  · rw [← hname, h]
  · exact absurd (hname.symm.trans h) (numbered_ne_underscore hopen n)

/-! ## Names of a class -/

/-- The allocator has in use every open name of the class, and every open name whose attribute the
class has. -/
structure Covers (a : Allocator) (c : Class) : Prop where
  member : ∀ name, isOpen name.toList = true → name ∈ c.names → a.uses name = true
  backing : ∀ name, isOpen name.toList = true → backingField name ∈ c.names →
    a.uses name = true

/-- The property that gives access to a child. -/
def accessorProperty (access : String × Child) : Property :=
  { name := access.1, type := Naming.resourceClass access.2.path
    doc := "The " ++ Text.quoted access.2.path ++ " resource."
    getter := some ("self." ++ backingField access.1) }

/-- The attribute behind the property that gives access to a child. -/
def accessorAttribute (owner : String) (access : String × Child) : String × String :=
  (backingField access.1, Naming.resourceClass access.2.path ++ "(" ++ owner ++ ")")

/-- The children with the names of their accessors. -/
def accesses (a : Allocator) (children : List Child) : List (String × Child) :=
  (a.allocateAll (children.map fun child => Naming.identifier child.name)).zip children

/-- The class with accessors added. -/
def Class.withAccessors (c : Class) (owner : String) (accesses : List (String × Child)) : Class :=
  { c with
    properties := c.properties ++ accesses.map accessorProperty
    attributes := c.attributes ++ accesses.map (accessorAttribute owner) }

theorem accesses_map_snd (a : Allocator) (children : List Child) :
    (accesses a children).map Prod.snd = children := by
  rw [accesses, List.map_snd_zip]
  exact Nat.le_of_eq (by rw [Allocator.length_allocateAll, List.length_map])

theorem accesses_map_fst (a : Allocator) (children : List Child) :
    (accesses a children).map Prod.fst =
      a.allocateAll (children.map fun child => Naming.identifier child.name) := by
  rw [accesses, List.map_fst_zip]
  exact Nat.le_of_eq (by rw [Allocator.length_allocateAll, List.length_map])

theorem names_withAccessor (c : Class) (owner : String) (access : String × Child) :
    (c.withAccessors owner [access]).names.Perm
      (access.1 :: backingField access.1 :: c.names) := by
  rw [List.perm_iff_count]
  intro name
  simp only [Class.withAccessors, Class.names, Class.memberNames, Ordered.names, accessorProperty,
    accessorAttribute, List.map_append, List.map_cons, List.map_nil, List.count_append,
    List.count_cons, List.count_nil]
  omega

/-- The two operations of an accessor succeed if neither its name nor its attribute is in use. -/
theorem applyAll_accessor {c : Class} {property : String} (hopen : isOpen property.toList = true)
    (hproperty : property ∉ c.names) (hattribute : backingField property ∉ c.names)
    (owner : String) (child : Child) (rest : List Class.Operation) :
    c.applyAll (accessor owner property child ++ rest) =
      (c.withAccessors owner [(property, child)]).applyAll rest := by
  have hne : property ≠ "" := by
    rintro rfl
    cases hopen
  have hbacking := Class.apply_backingField c
    (Naming.resourceClass child.path ++ "(" ++ owner ++ ")") hattribute
  -- The class has one attribute more before the property is added.
  let backed : Class :=
    { c with attributes := c.attributes ++ [accessorAttribute owner (property, child)] }
  have hfree : property ∉ backed.names := by
    intro hmem
    have hnames : property ∈ c.names ∨ property = backingField property := by
      simpa [backed, Class.names, Class.memberNames, Ordered.names, accessorAttribute,
        or_assoc] using hmem
    rcases hnames with hmem | heq
    · exact hproperty hmem
    · exact Naming.ne_backingField hopen hopen heq
  have hadded := Class.apply_readOnlyProperty backed (Naming.resourceClass child.path)
    ("self." ++ backingField property) ("The " ++ Text.quoted child.path ++ " resource.") hne hfree
  exact (Class.applyAll_cons c hbacking _).trans (Class.applyAll_cons backed hadded rest)

/-- An accessor with a newly allocated name leaves all names of the class covered. -/
theorem Covers.withAccessor {a : Allocator} {c : Class} (h : Covers a c) {name : String}
    (hopen : isOpen (a.allocate name).1.toList = true) (owner : String) (child : Child) :
    Covers (a.allocate name).2 (c.withAccessors owner [((a.allocate name).1, child)]) := by
  have hperm := names_withAccessor c owner ((a.allocate name).1, child)
  constructor
  · intro n hn hmem
    rw [Allocator.uses_allocate]
    rcases List.mem_cons.1 (hperm.mem_iff.1 hmem) with heq | hmem
    · exact Or.inl heq
    · rcases List.mem_cons.1 hmem with heq | hmem
      · exact absurd heq (Naming.ne_backingField hn hopen)
      · exact Or.inr (h.member n hn hmem)
  · intro n hn hmem
    rw [Allocator.uses_allocate]
    rcases List.mem_cons.1 (hperm.mem_iff.1 hmem) with heq | hmem
    · exact absurd heq.symm (Naming.ne_backingField hopen hn)
    · rcases List.mem_cons.1 hmem with heq | hmem
      · exact Or.inl (Class.backingField_injective heq)
      · exact Or.inr (h.backing n hn hmem)

/-- An allocator that covers a class allocates names that are free in it, as is the attribute. -/
theorem Covers.not_mem_allocate {a : Allocator} {c : Class} (h : Covers a c) {name : String}
    (hopen : isOpen (a.allocate name).1.toList = true) :
    (a.allocate name).1 ∉ c.names ∧ backingField (a.allocate name).1 ∉ c.names := by
  have hfresh := Allocator.allocate_fresh a name
  constructor
  · intro hmem
    rw [h.member _ hopen hmem] at hfresh
    cases hfresh
  · intro hmem
    rw [h.backing _ hopen hmem] at hfresh
    cases hfresh

/-- An accessor with a free name and a free attribute leaves the names of a class distinct. -/
theorem nodup_withAccessor {c : Class} (hnodup : c.names.Nodup) {property : String}
    (hopen : isOpen property.toList = true) (hproperty : property ∉ c.names)
    (hattribute : backingField property ∉ c.names) (owner : String) (child : Child) :
    (c.withAccessors owner [(property, child)]).names.Nodup := by
  refine (names_withAccessor c owner (property, child)).nodup_iff.2
    (List.nodup_cons.2 ⟨?_, List.nodup_cons.2 ⟨hattribute, hnodup⟩⟩)
  intro hmem
  rcases List.mem_cons.1 hmem with heq | hmem
  · exact Naming.ne_backingField hopen hopen heq
  · exact hproperty hmem

/-- A lone underscore is still wanted once at most after the first of distinct names. -/
theorem lone_of_allocate {a : Allocator} {name : String} (hname : isOpen name.toList = true)
    {wanted : List String} (hnew : name ∉ wanted)
    (hlone : a.uses "_" = true → "_" ∉ name :: wanted)
    (hused : (a.allocate name).2.uses "_" = true) : "_" ∉ wanted := by
  intro hmem
  rcases (Allocator.uses_allocate a name "_").1 hused with heq | hused
  · obtain rfl : name = "_" := eq_underscore_of_allocate hname heq.symm
    exact hnew hmem
  · exact hlone hused (List.mem_cons_of_mem name hmem)

/-- The operations that add accessors succeed, and the class then uses no name twice. The induction
carries that the allocator covers the class and that a lone underscore is wanted once at most. -/
theorem applyAll_accessorsFrom {a : Allocator} {c : Class} (hcovers : Covers a c)
    (hnodup : c.names.Nodup) {children : List Child}
    (hwanted : (children.map fun child => Naming.identifier child.name).Nodup)
    (hlone : a.uses "_" = true → "_" ∉ children.map fun child => Naming.identifier child.name)
    (owner : String) :
    c.applyAll (accessorsFrom owner a children) =
        (c.withAccessors owner (accesses a children), none) ∧
      (c.withAccessors owner (accesses a children)).names.Nodup := by
  induction children generalizing a c with
  | nil =>
    have hsame : c.withAccessors owner (accesses a []) = c := by
      simp [Class.withAccessors, accesses]
    rw [hsame]
    exact ⟨rfl, hnodup⟩
  | cons child children ih =>
    rw [List.map_cons, List.nodup_cons] at hwanted
    let name := Naming.identifier child.name
    let property := (a.allocate name).1
    have hname : isOpen name.toList = true := Naming.isOpen_identifier child.name
    have hopen : isOpen property.toList = true :=
      isOpen_allocate hname fun hused heq => hlone hused (heq ▸ List.mem_cons_self)
    obtain ⟨hproperty, hattribute⟩ := hcovers.not_mem_allocate hopen
    have hrest := ih (hcovers.withAccessor hopen owner child)
      (nodup_withAccessor hnodup hopen hproperty hattribute owner child) hwanted.2
      (lone_of_allocate hname hwanted.1 hlone)
    have hall : (c.withAccessors owner [(property, child)]).withAccessors owner
        (accesses (a.allocate name).2 children) =
          c.withAccessors owner (accesses a (child :: children)) := by
      simp [Class.withAccessors, accesses, Allocator.allocateAll_cons, property, name]
    have hfirst := applyAll_accessor hopen hproperty hattribute owner child
      (accessorsFrom owner (a.allocate name).2 children)
    rw [accessorsFrom]
    rw [hall] at hrest
    exact ⟨hfirst.trans hrest.1, hrest.2⟩

/-- Every open name with an attribute in the class is itself in the class, as the name of the property
that reads it. -/
def Class.HasProperties (c : Class) : Prop :=
  ∀ name, isOpen name.toList = true → backingField name ∈ c.names → name ∈ c.names

/-- The class with accessors for children, whose names are allocated for it. -/
def Class.withChildren (c : Class) (owner : String) (children : List Child) : Class :=
  c.withAccessors owner (accesses (Allocator.ofTaken c.names) children)

/-- Accessors for children with distinct identifiers are added to a class without a fault. -/
theorem applyAll_accessors {c : Class} (hproperties : c.HasProperties) (hnodup : c.names.Nodup)
    (hlone : "_" ∉ c.names) {children : List Child}
    (hwanted : (children.map fun child => Naming.identifier child.name).Nodup) (owner : String) :
    c.applyAll (accessors c owner children) = (c.withChildren owner children, none) ∧
      (c.withChildren owner children).names.Nodup := by
  refine applyAll_accessorsFrom ⟨?_, ?_⟩ hnodup hwanted ?_ owner
  · intro name _ hmem
    exact (Allocator.uses_ofTaken name c.names).2 hmem
  · intro name hopen hmem
    exact (Allocator.uses_ofTaken name c.names).2 (hproperties name hopen hmem)
  · intro hused
    exact absurd ((Allocator.uses_ofTaken "_" c.names).1 hused) hlone

end ApiDiscovery.Source
