import ApiDiscovery.Json.Double
import Mathlib.Algebra.Order.Field.Rat
import Mathlib.Algebra.Order.Field.Power
import Mathlib.Tactic.Linarith
import Mathlib.Tactic.FieldSimp
import Mathlib.Tactic.Ring

/-!
# Rounding and shortest digits

The magnitude nearest to a ratio depends on the ratio alone, not on the numerator and denominator it
is given by (`Double.magnitudeOfRatio_congr`): the exponent is the one between whose powers of two
the ratio lies (`Double.isExponent_exponentFor`), and there is only one (`IsExponent.unique`). The
ratio of a finite double has the magnitude of the double (`Double.magnitudeOfRatio_ratio`), so the
shortest digits of a double read back, whether a short grid has them or all digits are needed
(`Double.readsBack_shortest`).
-/

namespace ApiDiscovery.Double

theorem twoTo_pos (n : Nat) : 0 < twoTo n := Nat.pow_pos (by decide)

theorem tenTo_pos (n : Nat) : 0 < tenTo n := Nat.pow_pos (by decide)

theorem tenTo_add (m n : Nat) : tenTo (m + n) = tenTo m * tenTo n := Nat.pow_add 10 m n

/-! ## Exponents -/

/-- The power of two for which a significand of `q` is below `2 ^ 53`; it is the least one, or that
of the smallest double. -/
structure IsExponent (q : ℚ) (e : Int) : Prop where
  least : -1074 ≤ e
  below : q < 2 ^ (e + 53)
  above : e = -1074 ∨ 2 ^ (e + 52) ≤ q

theorem two_zpow_le {a b : Int} (h : a ≤ b) : (2 : ℚ) ^ a ≤ 2 ^ b :=
  zpow_le_zpow_right₀ one_le_two h

theorem IsExponent.le {q : ℚ} {e f : Int} (he : IsExponent q e) (hf : IsExponent q f) : f ≤ e := by
  rcases hf.above with heq | habove
  · rw [heq]
    exact he.least
  · by_contra hlt
    -- The significand for the larger one would be below `2 ^ 52`.
    have hpower : (2 : ℚ) ^ (e + 53) ≤ 2 ^ (f + 52) := two_zpow_le (by omega)
    linarith [he.below]

theorem IsExponent.unique {q : ℚ} {e f : Int} (he : IsExponent q e) (hf : IsExponent q f) : e = f :=
  Int.le_antisymm (hf.le he) (he.le hf)

theorem two_zpow_eq (e : Int) : (2 : ℚ) ^ e = (twoTo e.toNat : ℚ) / twoTo (-e).toNat := by
  rcases Int.le_total 0 e with h | h
  · obtain ⟨n, rfl⟩ := Int.eq_ofNat_of_zero_le h
    simp [twoTo]
  · obtain ⟨n, hn⟩ := Int.eq_ofNat_of_zero_le (Int.neg_nonneg_of_nonpos h)
    obtain rfl : e = -n := by omega
    simp [twoTo]

/-- A comparison with a power of two, by whole numbers. -/
theorem lt_two_zpow_iff (num : Nat) {den : Nat} (hden : 0 < den) (e : Int) (n : Nat) :
    (num : ℚ) / den < 2 ^ (e + n) ↔
      num * twoTo (-e).toNat < den * twoTo e.toNat * twoTo n := by
  have hpos : (0 : ℚ) < den := by exact_mod_cast hden
  have hpower : (0 : ℚ) < twoTo (-e).toNat := by exact_mod_cast twoTo_pos _
  have hsplit : (2 : ℚ) ^ (e + n) = (twoTo e.toNat * twoTo n : ℚ) / twoTo (-e).toNat := by
    rw [zpow_add₀ two_ne_zero, two_zpow_eq e]
    simp only [twoTo, Nat.pow_eq, zpow_natCast, Nat.cast_pow, Nat.cast_ofNat]
    ring
  rw [hsplit, div_lt_div_iff₀ hpos hpower]
  constructor
  · intro h
    have hcast : (num : ℚ) * twoTo (-e).toNat < den * twoTo e.toNat * twoTo n := by linarith
    exact_mod_cast hcast
  · intro h
    have hcast : (num : ℚ) * twoTo (-e).toNat < den * twoTo e.toNat * twoTo n := by
      exact_mod_cast h
    linarith

/-- A ratio lies between the powers of two that its logarithms tell. -/
theorem ratio_bounds {num den : Nat} (hnum : 0 < num) (hden : 0 < den) :
    (2 : ℚ) ^ ((num.log2 : Int) - den.log2 - 1) ≤ (num : ℚ) / den ∧
      (num : ℚ) / den < 2 ^ ((num.log2 : Int) - den.log2 + 1) := by
  have hpos : (0 : ℚ) < den := by exact_mod_cast hden
  have hnumLow : (2 : ℚ) ^ num.log2 ≤ num := by exact_mod_cast Nat.log2_self_le hnum.ne'
  have hnumHigh : (num : ℚ) < 2 ^ (num.log2 + 1) := by exact_mod_cast Nat.lt_log2_self
  have hdenLow : (2 : ℚ) ^ den.log2 ≤ den := by exact_mod_cast Nat.log2_self_le hden.ne'
  have hdenHigh : (den : ℚ) < 2 ^ (den.log2 + 1) := by exact_mod_cast Nat.lt_log2_self
  constructor
  · rw [le_div_iff₀ hpos]
    have hsum : (2 : ℚ) ^ ((num.log2 : Int) - den.log2 - 1) * 2 ^ (den.log2 + 1) =
        2 ^ num.log2 := by
      rw [← zpow_natCast, ← zpow_natCast, ← zpow_add₀ two_ne_zero]
      congr 1
      push_cast
      ring
    have hstep : (2 : ℚ) ^ ((num.log2 : Int) - den.log2 - 1) * den ≤
        2 ^ ((num.log2 : Int) - den.log2 - 1) * 2 ^ (den.log2 + 1) := by gcongr
    linarith
  · rw [div_lt_iff₀ hpos]
    have hsum : (2 : ℚ) ^ ((num.log2 : Int) - den.log2 + 1) * 2 ^ den.log2 =
        2 ^ (num.log2 + 1) := by
      rw [← zpow_natCast, ← zpow_natCast, ← zpow_add₀ two_ne_zero]
      congr 1
      push_cast
      ring
    have hstep : (2 : ℚ) ^ ((num.log2 : Int) - den.log2 + 1) * 2 ^ den.log2 ≤
        2 ^ ((num.log2 : Int) - den.log2 + 1) * den := by gcongr
    linarith

theorem isExponent_exponentFor {num den : Nat} (hnum : 0 < num) (hden : 0 < den) :
    IsExponent ((num : ℚ) / den) (exponentFor num den) := by
  obtain ⟨hlow, hhigh⟩ := ratio_bounds hnum hden
  unfold exponentFor
  extract_lets guess
  have hguess : guess = max (-1074) ((num.log2 : Int) - den.log2 - 53) := rfl
  clear_value guess
  have hiff := lt_two_zpow_iff num hden guess 53
  rw [Nat.cast_ofNat] at hiff
  split
  · next hlt =>
    refine ⟨by omega, hiff.2 hlt, ?_⟩
    rcases Int.le_total ((num.log2 : Int) - den.log2 - 53) (-1074) with hle | hle
    · exact Or.inl (by omega)
    · -- The guess is that of the logarithms, and the ratio is at least half of their power.
      right
      have hpower : (2 : ℚ) ^ (guess + 52) = 2 ^ ((num.log2 : Int) - den.log2 - 1) := by
        congr 1
        omega
      rw [hpower]
      exact hlow
  · next hnot =>
    refine ⟨by omega, ?_, Or.inr ?_⟩
    · have hpower : (2 : ℚ) ^ ((num.log2 : Int) - den.log2 + 1) ≤ 2 ^ (guess + 1 + 53) :=
        two_zpow_le (by omega)
      linarith
    · have hle : (2 : ℚ) ^ (guess + 53) ≤ (num : ℚ) / den := not_lt.1 fun h => hnot (hiff.1 h)
      have hpower : guess + 1 + 52 = guess + 53 := by omega
      rw [hpower]
      exact hle

/-! ## Rounding -/

theorem roundedQuotient_scaled {k : Nat} (hk : 0 < k) (num den : Nat) :
    roundedQuotient (k * num) (k * den) = roundedQuotient num den := by
  rw [roundedQuotient, roundedQuotient, Nat.mul_div_mul_left _ _ hk, Nat.mul_mod_mul_left]
  have hbelow : 2 * (k * (num % den)) < k * den ↔ 2 * (num % den) < den := by
    rw [Nat.mul_left_comm]
    exact Nat.mul_lt_mul_left hk
  have habove : k * den < 2 * (k * (num % den)) ↔ den < 2 * (num % den) := by
    rw [Nat.mul_left_comm]
    exact Nat.mul_lt_mul_left hk
  simp only [hbelow, habove]

theorem roundedQuotient_congr {a b c d : Nat} (hb : 0 < b) (hd : 0 < d) (h : a * d = c * b) :
    roundedQuotient a b = roundedQuotient c d :=
  calc roundedQuotient a b
      = roundedQuotient (d * a) (d * b) := (roundedQuotient_scaled hd a b).symm
    _ = roundedQuotient (b * c) (b * d) := by
        rw [Nat.mul_comm d a, h, Nat.mul_comm c b, Nat.mul_comm d b]
    _ = roundedQuotient c d := roundedQuotient_scaled hb c d

theorem roundedQuotient_mul {den : Nat} (hden : 0 < den) (q : Nat) :
    roundedQuotient (q * den) den = q := by
  rw [roundedQuotient, Nat.mul_div_cancel q hden, Nat.mul_mod_left, Nat.mul_zero, if_pos hden]

theorem magnitudeOfRatio_zero (den : Nat) : magnitudeOfRatio 0 den = 0 := by
  rw [magnitudeOfRatio, if_pos rfl]

theorem magnitudeOfRatio_pos {num : Nat} (h : 0 < num) (den : Nat) :
    magnitudeOfRatio num den = significandAt num den (exponentFor num den) +
      (exponentFor num den + 1074).toNat * twoTo 52 := by
  rw [magnitudeOfRatio, if_neg h.ne']

/-- The nearest magnitude depends on the ratio alone. -/
theorem magnitudeOfRatio_congr {a b c d : Nat} (hb : 0 < b) (hd : 0 < d) (h : a * d = c * b) :
    magnitudeOfRatio a b = magnitudeOfRatio c d := by
  rcases Nat.eq_zero_or_pos a with rfl | ha
  · rw [Nat.zero_mul] at h
    obtain rfl : c = 0 := (Nat.mul_eq_zero.1 h.symm).resolve_right hb.ne'
    rw [magnitudeOfRatio_zero, magnitudeOfRatio_zero]
  have hc : 0 < c := by
    rcases Nat.eq_zero_or_pos c with rfl | hc
    · rw [Nat.zero_mul] at h
      exact absurd h (Nat.mul_pos ha hd).ne'
    · exact hc
  have hratio : (a : ℚ) / b = (c : ℚ) / d := by
    have hb' : (b : ℚ) ≠ 0 := by exact_mod_cast hb.ne'
    have hd' : (d : ℚ) ≠ 0 := by exact_mod_cast hd.ne'
    rw [div_eq_div_iff hb' hd']
    exact_mod_cast h
  have hexponent : exponentFor a b = exponentFor c d := by
    have hleft := isExponent_exponentFor ha hb
    rw [hratio] at hleft
    exact hleft.unique (isExponent_exponentFor hc hd)
  rw [magnitudeOfRatio_pos ha, magnitudeOfRatio_pos hc, hexponent, significandAt, significandAt]
  congr 1
  apply roundedQuotient_congr
  · exact Nat.mul_pos hb (twoTo_pos _)
  · exact Nat.mul_pos hd (twoTo_pos _)
  · calc a * twoTo (-exponentFor c d).toNat * (d * twoTo (exponentFor c d).toNat)
        = a * d * (twoTo (-exponentFor c d).toNat * twoTo (exponentFor c d).toNat) := by ring
      _ = c * b * (twoTo (-exponentFor c d).toNat * twoTo (exponentFor c d).toNat) := by rw [h]
      _ = c * twoTo (-exponentFor c d).toNat * (b * twoTo (exponentFor c d).toNat) := by ring

/-! ## The ratio of a double -/

theorem significand_bounds (x : Double) :
    x.significand < twoTo 53 ∧ (x.exponent = -1074 ∨ twoTo 52 ≤ x.significand) := by
  have htwo : twoTo 53 = twoTo 52 + twoTo 52 := rfl
  have hmod := Nat.mod_lt x.magnitude (twoTo_pos 52)
  unfold significand exponent
  split
  · exact ⟨by omega, Or.inl rfl⟩
  · exact ⟨by omega, Or.inr (by omega)⟩

theorem exponent_ge (x : Double) : -1074 ≤ x.exponent := by
  unfold exponent
  split
  · exact Int.le_refl _
  · next h =>
    have hdiv : 1 ≤ x.magnitude / twoTo 52 :=
      (Nat.one_le_div_iff (twoTo_pos 52)).2 (Nat.le_of_not_lt h)
    rw [Int.ofNat_eq_natCast]
    omega

theorem ratio_pos (x : Double) : 0 < x.ratio.2 := twoTo_pos _

/-- The exponent of a double is the one for its ratio. -/
theorem isExponent_ratio (x : Double) :
    IsExponent ((x.ratio.1 : ℚ) / x.ratio.2) x.exponent := by
  obtain ⟨hbelow, habove⟩ := x.significand_bounds
  have hratio : (x.ratio.1 : ℚ) / x.ratio.2 = x.significand * 2 ^ x.exponent := by
    rw [two_zpow_eq, ratio]
    push_cast
    ring
  have hpos : (0 : ℚ) < 2 ^ x.exponent := zpow_pos two_pos _
  rw [hratio]
  refine ⟨x.exponent_ge, ?_, habove.imp id fun h => ?_⟩
  · have hcast : (x.significand : ℚ) < 2 ^ 53 := by exact_mod_cast hbelow
    rw [zpow_add₀ two_ne_zero, mul_comm]
    exact mul_lt_mul_of_pos_left (by exact_mod_cast hcast) hpos
  · have hcast : (2 : ℚ) ^ 52 ≤ x.significand := by exact_mod_cast h
    rw [zpow_add₀ two_ne_zero, mul_comm (x.significand : ℚ)]
    exact mul_le_mul_of_nonneg_left (by exact_mod_cast hcast) hpos.le

/-- The magnitude of a double, by its significand and its exponent. -/
theorem magnitude_eq (x : Double) :
    x.significand + (x.exponent + 1074).toNat * twoTo 52 = x.magnitude := by
  unfold significand exponent
  split
  · simp
  · next h =>
    have hdiv : 1 ≤ x.magnitude / twoTo 52 :=
      (Nat.one_le_div_iff (twoTo_pos 52)).2 (Nat.le_of_not_lt h)
    have hexponent : (Int.ofNat (x.magnitude / twoTo 52) - 1075 + 1074).toNat =
        x.magnitude / twoTo 52 - 1 := by
      rw [Int.ofNat_eq_natCast]
      omega
    have hsplit := Nat.div_add_mod x.magnitude (twoTo 52)
    rw [hexponent, Nat.sub_mul, Nat.one_mul]
    have hle : twoTo 52 ≤ x.magnitude / twoTo 52 * twoTo 52 := Nat.le_mul_of_pos_left _ hdiv
    rw [Nat.mul_comm] at hsplit
    omega

/-- The magnitude nearest to the ratio of a double is its own. -/
theorem magnitudeOfRatio_ratio (x : Double) :
    magnitudeOfRatio x.ratio.1 x.ratio.2 = x.magnitude := by
  rcases Nat.eq_zero_or_pos x.significand with hzero | hpos
  · have hmagnitude := x.magnitude_eq
    obtain ⟨-, habove⟩ := x.significand_bounds
    have hexponent : x.exponent = -1074 := by
      rcases habove with h | h
      · exact h
      · rw [hzero] at h
        exact absurd h (Nat.not_le_of_lt (twoTo_pos 52))
    rw [hzero, hexponent] at hmagnitude
    rw [ratio, hzero, Nat.zero_mul, magnitudeOfRatio_zero, ← hmagnitude]
    rfl
  have hnum : 0 < x.ratio.1 := Nat.mul_pos hpos (twoTo_pos _)
  have hexponent : exponentFor x.ratio.1 x.ratio.2 = x.exponent :=
    (isExponent_exponentFor hnum x.ratio_pos).unique x.isExponent_ratio
  have hsignificand : significandAt x.ratio.1 x.ratio.2 x.exponent = x.significand := by
    rw [significandAt, ratio, Nat.mul_assoc, Nat.mul_comm (twoTo (-x.exponent).toNat)]
    exact roundedQuotient_mul (Nat.mul_pos (twoTo_pos _) (twoTo_pos _)) _
  rw [magnitudeOfRatio_pos hnum, hexponent, hsignificand]
  exact x.magnitude_eq

/-! ## Decimals -/

/-- The magnitude nearest to a decimal number. -/
def magnitudeOfDecimal (digits : Nat) (scale : Int) : Nat :=
  magnitudeOfRatio (digits * tenTo scale.toNat) (tenTo (-scale).toNat)

/-- Zeros at the end of the digits may be left to the scale. -/
theorem magnitudeOfDecimal_zeros (digits zeros : Nat) (scale : Int) :
    magnitudeOfDecimal (digits * tenTo zeros) scale = magnitudeOfDecimal digits (scale + zeros) := by
  apply magnitudeOfRatio_congr
  · exact tenTo_pos _
  · exact tenTo_pos _
  · have hpower : zeros + scale.toNat + (-(scale + zeros)).toNat =
        (scale + zeros).toNat + (-scale).toNat := by omega
    simp only [Nat.mul_assoc, ← tenTo_add]
    rw [hpower]

theorem readsBack_iff (x : Double) (d : Decimal) :
    readsBack x d = true ↔ magnitudeOfDecimal d.digits d.scale = x.magnitude := beq_iff_eq

theorem readsBack_allDigits (x : Double) : readsBack x x.allDigits = true := by
  rw [readsBack_iff, ← magnitudeOfRatio_ratio x]
  apply magnitudeOfRatio_congr
  · exact tenTo_pos _
  · exact x.ratio_pos
  unfold allDigits ratio
  split
  · next h =>
    -- Five to the power times two to the power is ten to the power.
    have hnot : x.exponent.toNat = 0 := by omega
    have hten : tenTo (-x.exponent).toNat =
        Nat.pow 5 (-x.exponent).toNat * twoTo (-x.exponent).toNat :=
      Nat.mul_pow 5 2 _
    rw [hnot, hten]
    show x.significand * _ * 1 * _ = x.significand * 1 * _
    rw [Nat.mul_one, Nat.mul_one, Nat.mul_assoc]
  · next h =>
    have hnot : (-x.exponent).toNat = 0 := by omega
    simp [hnot, tenTo, twoTo]

/-- A decimal of a grid that is chosen for a double reads back. -/
theorem readsBack_nearestOn {x : Double} {scale : Int} {d : Decimal}
    (h : nearestOn x scale = some d) : readsBack x d = true := by
  unfold nearestOn at h
  dsimp only at h
  split at h
  · next hboth =>
    rw [Bool.and_eq_true] at hboth
    split at h
    · cases h
      exact hboth.1
    split at h
    · cases h
      exact hboth.2
    · -- Of two equally near ones the even one is one of the two.
      cases h
      generalize x.ratio.1 * tenTo (-scale).toNat / (x.ratio.2 * tenTo scale.toNat) = low at hboth ⊢
      rcases Nat.mod_two_eq_zero_or_one low with heven | hodd
      · rw [heven]
        exact hboth.1
      · rw [hodd]
        exact hboth.2
  · split at h
    · next hbelow =>
      cases h
      exact hbelow
    · split at h
      · next habove =>
        cases h
        exact habove
      · cases h

theorem readsBack_shortestFrom (x : Double) (point : Int) (fuel count : Nat) :
    readsBack x (shortestFrom x point fuel count) = true := by
  induction fuel generalizing count with
  | zero => exact readsBack_allDigits x
  | succ fuel ih =>
    rw [shortestFrom]
    split
    · next d hd => exact readsBack_nearestOn hd
    · exact ih (count + 1)

/-- The shortest digits of a double read back. -/
theorem readsBack_shortest (x : Double) : readsBack x x.shortest = true :=
  readsBack_shortestFrom x _ 17 1

end ApiDiscovery.Double
