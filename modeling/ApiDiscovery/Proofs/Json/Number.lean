import ApiDiscovery.Json.Value
import Mathlib.Data.List.Basic

/-!
# Characters of numbers

A finite number is written in digits, signs, a point and the mark of an exponent
(`Double.magnitudeText_forall`, `isNumeric_toString`).
-/

namespace ApiDiscovery

/-- The character may stand in a number. -/
def isNumeric (c : Char) : Bool := c.isDigit || ".e+-".toList.contains c

theorem isNumeric_toDigits (n : Nat) : ∀ c ∈ Nat.toDigits 10 n, isNumeric c = true := by
  intro c hc
  rw [isNumeric, Nat.isDigit_of_mem_toDigits (by omega) (by omega) hc]
  rfl

theorem toList_toString_ofNat (n : Nat) :
    (toString (Int.ofNat n)).toList = Nat.toDigits 10 n := by
  have htext : (toString (Int.ofNat n)).toList = n.repr.toList := rfl
  rw [htext, Nat.toList_repr]

theorem toList_toString_negSucc (n : Nat) :
    (toString (Int.negSucc n)).toList = '-' :: Nat.toDigits 10 (n + 1) := by
  have htext : (toString (Int.negSucc n)).toList = '-' :: (n + 1).repr.toList := by
    show ("-" ++ (n + 1).repr).toList = _
    rw [String.toList_append]
    rfl
  rw [htext, Nat.toList_repr]

theorem isNumeric_toString (n : Int) : ∀ c ∈ (toString n).toList, isNumeric c = true := by
  intro c hc
  cases n with
  | ofNat m =>
    rw [toList_toString_ofNat] at hc
    exact isNumeric_toDigits m c hc
  | negSucc m =>
    rw [toList_toString_negSucc] at hc
    rcases List.mem_cons.1 hc with rfl | hc
    · decide
    · exact isNumeric_toDigits _ c hc

namespace Double

theorem exponentText_forall (e : Int) : ∀ c ∈ exponentText e, isNumeric c = true := by
  intro c hc
  rcases List.mem_cons.1 hc with rfl | hc
  · split <;> decide
  · split at hc
    · rcases List.mem_cons.1 hc with rfl | hc
      · decide
      · exact isNumeric_toDigits _ c hc
    · exact isNumeric_toDigits _ c hc

theorem significantDigits_forall (d : Decimal) :
    ∀ c ∈ (significantDigits d).1, isNumeric c = true := by
  intro c hc
  have hkept : c ∈ (Nat.toDigits 10 d.digits).reverse.dropWhile (· == '0') :=
    List.mem_reverse.1 hc
  exact isNumeric_toDigits _ c (List.mem_reverse.1 (List.dropWhile_subset _ hkept))

theorem positional_forall {digits : List Char} (h : ∀ c ∈ digits, isNumeric c = true)
    (point : Int) : ∀ c ∈ positional digits point, isNumeric c = true := by
  have hzeros : ∀ n, ∀ c ∈ List.replicate n '0', isNumeric c = true := by
    intro n c hc
    rw [List.eq_of_mem_replicate hc]
    decide
  intro c hc
  unfold positional at hc
  dsimp only at hc
  split at hc
  · rcases List.mem_cons.1 hc with rfl | hc
    · decide
    rcases List.mem_cons.1 hc with rfl | hc
    · decide
    rcases List.mem_append.1 hc with hc | hc
    · exact hzeros _ c hc
    · exact h c hc
  split at hc
  · rcases List.mem_append.1 hc with hc | hc
    · rcases List.mem_append.1 hc with hc | hc
      · exact h c hc
      · exact hzeros _ c hc
    · rcases List.mem_cons.1 hc with rfl | hc
      · decide
      · obtain rfl := List.mem_singleton.1 hc
        decide
  · rcases List.mem_append.1 hc with hc | hc
    · exact h c (List.mem_of_mem_take hc)
    · rcases List.mem_cons.1 hc with rfl | hc
      · decide
      · exact h c (List.mem_of_mem_drop hc)

theorem scientific_forall {digits : List Char} (h : ∀ c ∈ digits, isNumeric c = true)
    (point : Int) : ∀ c ∈ scientific digits point, isNumeric c = true := by
  intro c hc
  unfold scientific at hc
  split at hc
  · exact absurd hc List.not_mem_nil
  · rcases List.mem_cons.1 hc with rfl | hc
    · exact h _ List.mem_cons_self
    rcases List.mem_cons.1 hc with rfl | hc
    · decide
    · exact exponentText_forall _ c hc
  · next d rest _ =>
    rcases List.mem_cons.1 hc with rfl | hc
    · exact h _ List.mem_cons_self
    rcases List.mem_cons.1 hc with rfl | hc
    · decide
    rcases List.mem_append.1 hc with hc | hc
    · exact h c (List.mem_cons_of_mem d hc)
    rcases List.mem_cons.1 hc with rfl | hc
    · decide
    · exact exponentText_forall _ c hc

theorem magnitudeText_forall (x : Double) : ∀ c ∈ magnitudeText x, isNumeric c = true := by
  have hdigits := significantDigits_forall x.shortest
  intro c hc
  unfold magnitudeText at hc
  split at hc
  · simp only [List.mem_cons, List.not_mem_nil, or_false] at hc
    rcases hc with rfl | rfl | rfl <;> decide
  dsimp only at hc
  split at hc
  · exact positional_forall hdigits _ c hc
  · exact scientific_forall hdigits _ c hc

/-- Neither a finite number nor the words for the other ones hold this letter. -/
theorem not_mem_toText (x : Double) : 'l' ∉ x.toText.toList := by
  -- The words are `inf` and `nan`, and the letter is in neither.
  have hbody : 'l' ∉ (if x.isFinite then magnitudeText x else ['i', 'n', 'f']) := by
    split
    · exact fun hc => absurd (magnitudeText_forall x _ hc) (by decide)
    · decide
  unfold toText
  split
  · decide
  · dsimp only
    rw [String.toList_ofList]
    split
    · rw [List.mem_cons, not_or]
      exact ⟨by decide, hbody⟩
    · exact hbody

end Double
end ApiDiscovery
