import ApiDiscovery.Proofs.Naming.Allocator
import ApiDiscovery.Proofs.Naming.Words
import ApiDiscovery.Proofs.Text.Integer

/-!
# Names for arguments

A name can stand for an argument if it is plain and no keyword (`IsUsable`). No keyword has an
underscore, so a name that gets one, behind it or before a number, is none: identifiers and names of
arguments are usable (`isUsable_identifier`, `isUsable_argument`), and so is everything that an
allocator hands out for usable names (`isUsable_allocateAll`).
-/

namespace ApiDiscovery.Naming

open ApiDiscovery.Text

/-- The name can stand for an argument: it starts with a small letter or an underscore, small
letters, digits and underscores come after that, and it is no keyword. -/
structure IsUsable (name : String) : Prop where
  plain : isPlain name.toList = true
  keyword : name ∉ keywords

/-! ## Underscores -/

theorem underscore_not_mem_keywords : ∀ word ∈ keywords, '_' ∉ word.toList := by
  decide

theorem isUsable_of_underscore {name : String} (hplain : isPlain name.toList = true)
    (h : '_' ∈ name.toList) : IsUsable name :=
  ⟨hplain, fun hmem => underscore_not_mem_keywords name hmem h⟩

theorem isPlain_append {s t : List Char} (hs : isPlain s = true)
    (ht : ∀ c ∈ t, isNameChar c = true) : isPlain (s ++ t) = true := by
  cases s with
  | nil => cases hs
  | cons c s =>
    rw [isPlain, Bool.and_eq_true] at hs
    rw [List.cons_append, isPlain, List.all_append, Bool.and_eq_true, Bool.and_eq_true]
    exact ⟨hs.1, hs.2, List.all_eq_true.2 ht⟩

/-- A name that avoids words without an underscore is none of them. -/
theorem avoid_not_mem {taken : List String} (h : ∀ word ∈ taken, '_' ∉ word.toList)
    (name : String) : avoid taken name ∉ taken := by
  rw [avoid]
  split
  · exact fun hmem => h _ hmem (by simp)
  · next hfree => simpa using hfree

theorem isUsable_avoid {name : String} (h : IsUsable name) (taken : List String) :
    IsUsable (avoid taken name) := by
  rw [avoid]
  split
  · refine isUsable_of_underscore ?_ (by simp)
    rw [String.toList_append]
    exact isPlain_append h.plain (List.forall_mem_singleton.2 (by decide))
  · exact h

theorem isUsable_identifier (name : String) : IsUsable (identifier name) :=
  ⟨isPlain_identifier name, avoid_not_mem underscore_not_mem_keywords (sanitize name)⟩

theorem isUsable_argument (name : String) : IsUsable (argument name) :=
  isUsable_avoid (isUsable_identifier name) reservedLocals

/-! ## Allocated names -/

theorem isUsable_numbered {name : String} (h : IsUsable name) (n : Nat) :
    IsUsable (Allocator.numbered name n) := by
  have hchars := Allocator.toList_numbered name n
  have hdigits : ∀ c ∈ (toString n).toList, isNameChar c = true := by
    intro c hc
    rw [Nat.toString_eq_repr, Nat.toList_repr] at hc
    exact of_isDigit (P := fun c => isNameChar c = true) (by decide)
      (Nat.isDigit_of_mem_toDigits (by omega) (by omega) hc)
  refine isUsable_of_underscore ?_ ?_
  · rw [hchars]
    exact isPlain_append h.plain (List.forall_mem_cons.2 ⟨by decide, hdigits⟩)
  · rw [hchars]
    exact List.mem_append_right _ List.mem_cons_self

theorem isUsable_allocate (a : Allocator) {name : String} (h : IsUsable name) :
    IsUsable (a.allocate name).1 := by
  rcases a.allocate_cases name with ⟨-, hname⟩ | ⟨-, n, hname⟩
  · rwa [hname]
  · rw [hname]
    exact isUsable_numbered h n

theorem isUsable_allocateAll (a : Allocator) {wanted : List String}
    (h : ∀ name ∈ wanted, IsUsable name) : ∀ name ∈ a.allocateAll wanted, IsUsable name := by
  induction wanted generalizing a with
  | nil => exact fun name hname => absurd hname List.not_mem_nil
  | cons name wanted ih =>
    obtain ⟨hname, hwanted⟩ := List.forall_mem_cons.1 h
    exact List.forall_mem_cons.2 ⟨isUsable_allocate a hname, ih _ hwanted⟩

end ApiDiscovery.Naming
