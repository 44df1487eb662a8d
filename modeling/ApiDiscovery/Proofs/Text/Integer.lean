import ApiDiscovery.Proofs.Json.Number
import ApiDiscovery.Proofs.Text.Cutting
import ApiDiscovery.Text.Integer
import Mathlib.Tactic.Ring

/-!
# Whole numbers written and read again

A whole number that was read from a text has no more digits than the text (`natAbs_of_integer?`), so
in decimal it can be read again, and is the same number (`integer?_toString`).
-/

namespace ApiDiscovery.Text

/-! ## What is read is small enough -/

theorem le_nine_of_digitValue? {c : Char} {d : Nat} (h : digitValue? c = some d) : d ≤ 9 := by
  obtain ⟨start, hstart, rfl⟩ := Option.map_eq_some_iff.1 h
  have hrun := List.find?_some hstart
  rw [Bool.and_eq_true, decide_eq_true_eq, decide_eq_true_eq] at hrun
  omega

theorem isDecimalDigit_of_digitValue? {c : Char} {d : Nat} (h : digitValue? c = some d) :
    isDecimalDigit c = true := by
  rw [isDecimalDigit, h]
  rfl

/-- A digit more makes a number at most ten times as large. -/
theorem lt_of_digit {value d k n : Nat} (hd : d ≤ 9) (h : n < (10 * value + d + 1) * 10 ^ k) :
    n < (value + 1) * 10 ^ (k + 1) := by
  have hstep : 10 * value + d + 1 ≤ 10 * (value + 1) := by omega
  calc
    n < (10 * value + d + 1) * 10 ^ k := h
    _ ≤ 10 * (value + 1) * 10 ^ k := Nat.mul_le_mul_right _ hstep
    _ = (value + 1) * 10 ^ (k + 1) := by ring

theorem lt_of_digitsFrom {value n : Nat} {s : List Char} (h : digitsFrom value s = some n) :
    n < (value + 1) * 10 ^ (s.filter isDecimalDigit).length := by
  induction value, s using digitsFrom.induct with
  | case1 value =>
    cases h
    simp
  | case2 value c rest d hd ih =>
    rw [digitsFrom, hd] at h
    rw [List.filter_cons_of_neg (by decide),
      List.filter_cons_of_pos (isDecimalDigit_of_digitValue? hd), List.length_cons]
    exact lt_of_digit (le_nine_of_digitValue? hd) (ih h)
  | case3 value c rest hnone =>
    rw [digitsFrom, hnone] at h
    cases h
  | case4 value c rest hother d hd ih =>
    rw [digitsFrom, hd] at h
    · rw [List.filter_cons_of_pos (isDecimalDigit_of_digitValue? hd), List.length_cons]
      exact lt_of_digit (le_nine_of_digitValue? hd) (ih h)
    · exact hother
  | case5 value c rest hother hnone =>
    rw [digitsFrom, hnone] at h
    · cases h
    · exact hother

theorem lt_of_digits? {n : Nat} {s : List Char} (h : digits? s = some n) :
    n < 10 ^ (s.filter isDecimalDigit).length := by
  cases s with
  | nil => cases h
  | cons c rest =>
    obtain ⟨d, hd, h⟩ := Option.bind_eq_some_iff.1 h
    rw [List.filter_cons_of_pos (isDecimalDigit_of_digitValue? hd), List.length_cons]
    have hrest : n < (10 * 0 + d + 1) * 10 ^ (rest.filter isDecimalDigit).length := by
      simpa using lt_of_digitsFrom h
    simpa using lt_of_digit (le_nine_of_digitValue? hd) hrest

/-- A number that was read has at most as many digits as may be read. -/
theorem natAbs_of_integer? {s : List Char} {n : Int} (h : integer? s = some n) :
    n.natAbs < 10 ^ maxDigits := by
  unfold integer? at h
  dsimp only at h
  generalize trim s = body at h
  split at h
  · cases h
  next hshort =>
  have hbound : ∀ {rest : List Char} {m : Nat}, digits? rest = some m →
      (rest.filter isDecimalDigit).length ≤ (body.filter isDecimalDigit).length →
      m < 10 ^ maxDigits := fun hm hle =>
    (lt_of_digits? hm).trans_le (Nat.pow_le_pow_right (by omega) (by omega))
  split at h
  · obtain ⟨m, hm, rfl⟩ := Option.map_eq_some_iff.1 h
    rw [Int.natAbs_neg]
    exact hbound hm (by simp [List.filter_cons]; split <;> simp)
  · obtain ⟨m, hm, rfl⟩ := Option.map_eq_some_iff.1 h
    exact hbound hm (by simp [List.filter_cons]; split <;> simp)
  · obtain ⟨m, hm, rfl⟩ := Option.map_eq_some_iff.1 h
    exact hbound hm le_rfl

/-! ## Numbers in decimal -/

/-- What holds of the ten digits of ASCII holds of every character that is one. -/
theorem of_isDigit {P : Char → Prop} (h : ∀ n < 58, 48 ≤ n → P (Char.ofNat n)) {c : Char}
    (hc : c.isDigit = true) : P c := by
  rw [Char.isDigit, Bool.and_eq_true, decide_eq_true_eq, decide_eq_true_eq] at hc
  have hlow : 48 ≤ c.toNat := hc.1
  have hhigh : c.toNat ≤ 57 := hc.2
  have hchar := h c.toNat (by omega) hlow
  rw [Char.ofNat_toNat] at hchar
  exact hchar

theorem digitValue?_of_isDigit {c : Char} (h : c.isDigit = true) :
    digitValue? c = some (c.toNat - '0'.toNat) :=
  of_isDigit (P := fun c => digitValue? c = some (c.toNat - '0'.toNat)) (by decide) h

theorem digitsFrom_of_isDigit {s : List Char} (h : ∀ c ∈ s, c.isDigit = true) (value : Nat) :
    digitsFrom value s = some (Nat.ofDigitChars 10 s value) := by
  induction s generalizing value with
  | nil => rfl
  | cons c s ih =>
    obtain ⟨hc, hs⟩ := List.forall_mem_cons.1 h
    have hline : c ≠ '_' := by
      rintro rfl
      exact absurd hc (by decide)
    rw [digitsFrom, digitValue?_of_isDigit hc]
    · exact ih hs _
    · exact fun _ _ heq _ => hline heq

theorem digits?_toDigits (n : Nat) : digits? (Nat.toDigits 10 n) = some n := by
  have hdigits : ∀ c ∈ Nat.toDigits 10 n, c.isDigit = true := fun c hc =>
    Nat.isDigit_of_mem_toDigits (by omega) (by omega) hc
  have hvalue : Nat.ofDigitChars 10 (Nat.toDigits 10 n) 0 = n := Nat.ofDigitChars_ten_toDigits
  cases hs : Nat.toDigits 10 n with
  | nil => exact absurd hs Nat.toDigits_ne_nil
  | cons c rest =>
    rw [hs] at hdigits hvalue
    obtain ⟨hc, hrest⟩ := List.forall_mem_cons.1 hdigits
    rw [digits?, digitValue?_of_isDigit hc, Option.bind_some, digitsFrom_of_isDigit hrest,
      ← hvalue, Nat.ofDigitChars, Nat.ofDigitChars, List.foldl_cons, Nat.mul_zero, Nat.zero_add]

theorem trim_of_none {s : List Char} (h : ∀ c ∈ s, isBlank c = false) : trim s = s := by
  have hstart : ∀ {t : List Char}, (∀ c ∈ t, isBlank c = false) → t.dropWhile isBlank = t :=
    fun ht => dropWhile_append_stop (a := []) (fun _ hc => absurd hc List.not_mem_nil)
      fun c hc => ht c (List.mem_of_head? hc)
  rw [trim, trimStart, hstart h, trimEnd, hstart fun c hc => h c (List.mem_reverse.1 hc),
    List.reverse_reverse]

theorem isBlank_of_isDigit {c : Char} (h : c.isDigit = true) : isBlank c = false :=
  of_isDigit (P := fun c => isBlank c = false) (by decide) h

/-- The digits of a number that is small enough are read, behind a minus sign or without one. -/
theorem integer?_toDigits {n : Nat} (h : n < 10 ^ maxDigits) :
    integer? (Nat.toDigits 10 n) = some (Int.ofNat n) ∧
      integer? ('-' :: Nat.toDigits 10 n) = some (-Int.ofNat n) := by
  have hdigits : ∀ c ∈ Nat.toDigits 10 n, c.isDigit = true := fun c hc =>
    Nat.isDigit_of_mem_toDigits (by omega) (by omega) hc
  have hblank : ∀ c ∈ Nat.toDigits 10 n, isBlank c = false := fun c hc =>
    isBlank_of_isDigit (hdigits c hc)
  have hlength : (Nat.toDigits 10 n).length ≤ maxDigits :=
    (Nat.length_toDigits_le_iff (by omega) (by decide)).2 h
  have hfilter := List.length_filter_le isDecimalDigit (Nat.toDigits 10 n)
  constructor
  · rw [integer?, trim_of_none hblank, if_neg (by omega)]
    split
    · next heq => exact absurd (hdigits '-' (heq ▸ List.mem_cons_self)) (by decide)
    · next heq => exact absurd (hdigits '+' (heq ▸ List.mem_cons_self)) (by decide)
    · rw [digits?_toDigits]
      rfl
  · have hsigned : ∀ c ∈ '-' :: Nat.toDigits 10 n, isBlank c = false :=
      List.forall_mem_cons.2 ⟨by decide, hblank⟩
    rw [integer?, trim_of_none hsigned, List.filter_cons_of_neg (by decide), if_neg (by omega)]
    exact congrArg (Option.map _) (digits?_toDigits n)

/-- A number that is small enough is read from its text. -/
theorem integer?_toString {n : Int} (h : n.natAbs < 10 ^ maxDigits) :
    integer? (toString n).toList = some n := by
  cases n with
  | ofNat m =>
    rw [toList_toString_ofNat]
    exact (integer?_toDigits h).1
  | negSucc m =>
    rw [toList_toString_negSucc]
    exact (integer?_toDigits h).2

end ApiDiscovery.Text
