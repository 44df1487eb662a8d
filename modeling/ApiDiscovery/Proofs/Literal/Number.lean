import ApiDiscovery.Proofs.Json.Double
import ApiDiscovery.Proofs.Json.Number
import ApiDiscovery.Proofs.Literal.Reader
import ApiDiscovery.Proofs.Text.Cutting
import Mathlib.Data.List.TakeWhile

/-!
# Numbers in literals

An integer and a finite double are written as words that are read as the same number
(`word?_toString`, `word?_toText`). The text of a double has the digits of its shortest decimal
without the zeros at their end, at whatever place the point stands, so it is that decimal
(`significantDigits_spec`), and the shortest decimal reads back.
-/

namespace ApiDiscovery.Literal

open ApiDiscovery.Text (cutFirst cutFirst_append_cons cutFirst_of_none)
open Double (magnitudeOfDecimal tenTo)

/-- The value of decimal digits. -/
def valueOf (s : List Char) : Nat := Nat.ofDigitChars 10 s 0

/-- The list has decimal digits only, and at least one. -/
structure IsDigits (s : List Char) : Prop where
  ne_nil : s ≠ []
  digit : ∀ c ∈ s, c.isDigit = true

theorem isDigits_toDigits (n : Nat) : IsDigits (Nat.toDigits 10 n) :=
  ⟨Nat.toDigits_ne_nil, fun _ hc => Nat.isDigit_of_mem_toDigits (by omega) (by omega) hc⟩

theorem isDigits_zero : IsDigits ['0'] := ⟨by simp, by simp⟩

theorem isDigit_replicate {n : Nat} {c : Char} (h : c ∈ List.replicate n '0') :
    c.isDigit = true := by
  rw [List.eq_of_mem_replicate h]
  rfl

theorem ne_of_isDigit {c d : Char} (hc : c.isDigit = true) (hd : d.isDigit = false) :
    (c == d) = false := by
  rw [beq_eq_false_iff_ne]
  rintro rfl
  rw [hc] at hd
  cases hd

theorem digits?_of_isDigits {s : List Char} (h : IsDigits s) : digits? s = some (valueOf s) := by
  have hempty : s.isEmpty = false := by simp [h.ne_nil]
  have hall : s.all Char.isDigit = true := List.all_eq_true.2 h.digit
  rw [digits?, hempty, hall]
  rfl

/-! ## Values of digits -/

theorem valueOf_append (a b : List Char) :
    valueOf (a ++ b) = valueOf a * tenTo b.length + valueOf b := by
  rw [valueOf, Nat.ofDigitChars_append, Nat.ofDigitChars_eq_ofDigitChars_zero, Nat.mul_comm]
  rfl

theorem valueOf_zeros (n : Nat) : valueOf (List.replicate n '0') = 0 := by
  rw [valueOf, Nat.ofDigitChars_replicate_zero, Nat.mul_zero]

theorem valueOf_append_zeros (s : List Char) (n : Nat) :
    valueOf (s ++ List.replicate n '0') = valueOf s * tenTo n := by
  rw [valueOf_append, valueOf_zeros, List.length_replicate, Nat.add_zero]

theorem valueOf_zeros_append (n : Nat) (s : List Char) :
    valueOf (List.replicate n '0' ++ s) = valueOf s := by
  rw [valueOf_append, valueOf_zeros, Nat.zero_mul, Nat.zero_add]

/-! ## Integers -/

/-- The digits of a number start with zero only if the number is zero. -/
theorem toDigits_head (n : Nat) (h : (Nat.toDigits 10 n).head? = some '0') :
    Nat.toDigits 10 n = ['0'] := by
  induction n using Nat.strong_induction_on with
  | _ n ih =>
    rcases Nat.lt_or_ge n 10 with hlt | hge
    · rw [Nat.toDigits_of_lt_base hlt] at h ⊢
      exact congrArg (fun c => [c]) (Option.some.inj h)
    · rw [Nat.toDigits_of_base_le (by omega) hge, List.head?_append_of_ne_nil _ Nat.toDigits_ne_nil]
        at h
      have hzero := congrArg valueOf (ih (n / 10) (by omega) h)
      rw [valueOf, Nat.ofDigitChars_ten_toDigits] at hzero
      have hnot : n / 10 = 0 := hzero
      omega

/-- Digits without zeros in front are read as an integer. -/
theorem number?_of_isDigits {s : List Char} (h : IsDigits s)
    (hzero : s.head? = some '0' → s = ['0']) : number? s = some (.int (Int.ofNat (valueOf s))) := by
  have hexponent : cutFirst (· == 'e') s = (s, none) :=
    cutFirst_of_none fun c hc => ne_of_isDigit (h.digit c hc) rfl
  have hpoint : cutFirst (· == '.') s = (s, none) :=
    cutFirst_of_none fun c hc => ne_of_isDigit (h.digit c hc) rfl
  have hnot : ¬ (decide (s.head? = some '0') && s != ['0']) = true := by
    simp only [Bool.and_eq_true, decide_eq_true_eq, bne_iff_ne, not_and, not_not]
    exact hzero
  simp only [number?, hexponent, hpoint]
  rw [if_neg hnot, digits?_of_isDigits h]
  rfl

/-- No number without a sign starts with one. -/
theorem number?_minus (s : List Char) : number? ('-' :: s) = none := by
  have hexponent : cutFirst (· == 'e') ('-' :: s) =
      ('-' :: (cutFirst (· == 'e') s).1, (cutFirst (· == 'e') s).2) := rfl
  have hpoint (t : List Char) : cutFirst (· == '.') ('-' :: t) =
      ('-' :: (cutFirst (· == '.') t).1, (cutFirst (· == '.') t).2) := rfl
  have hdigits (t : List Char) : digits? ('-' :: t) = none := rfl
  simp only [number?, hexponent, hpoint, hdigits]
  split
  · split
    · rfl
    · rfl
  · rfl
  · rfl

/-- A word that is a number without a sign is read as this number. -/
theorem word?_of_number? {s : List Char} {v : Json} (h : number? s = some v) :
    word? s = some v := by
  have hnames : number? ['N', 'o', 'n', 'e'] = none ∧ number? ['T', 'r', 'u', 'e'] = none ∧
      number? ['F', 'a', 'l', 's', 'e'] = none := ⟨rfl, rfl, rfl⟩
  have hne {name : List Char} (hname : number? name = none) : s ≠ name := by
    rintro rfl
    rw [hname] at h
    cases h
  unfold word?
  rw [if_neg (hne hnames.1), if_neg (hne hnames.2.1), if_neg (hne hnames.2.2)]
  split
  · next rest => exact absurd rfl (hne (number?_minus rest))
  · exact h

theorem word?_minus {s : List Char} {v w : Json} (h : number? s = some v)
    (hw : negated? v = some w) : word? ('-' :: s) = some w := by
  have hname {c : Char} {name : List Char} (hc : c ≠ '-') : '-' :: s ≠ c :: name :=
    fun heq => hc (List.cons.inj heq).1.symm
  rw [word?, if_neg (hname (by decide)), if_neg (hname (by decide)), if_neg (hname (by decide))]
  simp [h, hw]

/-- An integer is read as itself. -/
theorem word?_toString (n : Int) : word? (toString n).toList = some (.int n) := by
  have hnat (m : Nat) : number? (Nat.toDigits 10 m) = some (.int (Int.ofNat m)) := by
    rw [number?_of_isDigits (isDigits_toDigits m) (toDigits_head m), valueOf,
      Nat.ofDigitChars_ten_toDigits]
  cases n with
  | ofNat m =>
    have htext : (toString (Int.ofNat m)).toList = m.repr.toList := rfl
    rw [htext, Nat.toList_repr]
    exact word?_of_number? (hnat m)
  | negSucc m =>
    have htext : (toString (Int.negSucc m)).toList = '-' :: (m + 1).repr.toList := by
      show ("-" ++ (m + 1).repr).toList = _
      rw [String.toList_append]
      rfl
    rw [htext, Nat.toList_repr]
    exact word?_minus (hnat (m + 1)) rfl

/-! ## Doubles -/

theorem exponent?_exponentText (e : Int) : exponent? (Double.exponentText e) = some e := by
  have hpadded : ∃ s, IsDigits s ∧ valueOf s = e.natAbs ∧
      Double.exponentText e = (if e < 0 then '-' else '+') :: s := by
    have hdigits := isDigits_toDigits e.natAbs
    have hvalue : valueOf (Nat.toDigits 10 e.natAbs) = e.natAbs := Nat.ofDigitChars_ten_toDigits
    refine ⟨_, ?_, ?_, rfl⟩
    · split
      · -- A single digit gets a zero in front.
        refine ⟨List.cons_ne_nil _ _, List.forall_mem_cons.2 ⟨rfl, hdigits.digit⟩⟩
      · exact hdigits
    · split
      · exact (valueOf_zeros_append 1 _).trans hvalue
      · exact hvalue
  obtain ⟨s, hs, hvalue, htext⟩ := hpadded
  rw [htext]
  split
  · simp only [exponent?, digits?_of_isDigits hs, hvalue, Option.map_some, Int.ofNat_eq_natCast]
    congr 1
    omega
  · simp only [exponent?, digits?_of_isDigits hs, hvalue, Option.map_some, Int.ofNat_eq_natCast]
    congr 1
    omega

theorem not_mark {s : List Char} (h : IsDigits s) {d : Char} (hd : d.isDigit = false) :
    ∀ c ∈ s, (c == d) = false :=
  fun c hc => ne_of_isDigit (h.digit c hc) hd

/-- Digits with a point in them, without an exponent. -/
theorem number?_point {whole fraction : List Char} (hwhole : IsDigits whole)
    (hfraction : IsDigits fraction) :
    number? (whole ++ '.' :: fraction) =
      some (nearest (valueOf (whole ++ fraction)) (-Int.ofNat fraction.length)) := by
  have hboth : IsDigits (whole ++ fraction) :=
    ⟨by simp [hwhole.ne_nil], List.forall_mem_append.2 ⟨hwhole.digit, hfraction.digit⟩⟩
  have hexponent : cutFirst (· == 'e') (whole ++ '.' :: fraction) =
      (whole ++ '.' :: fraction, none) := by
    refine cutFirst_of_none (List.forall_mem_append.2 ⟨not_mark hwhole rfl, ?_⟩)
    exact List.forall_mem_cons.2 ⟨rfl, not_mark hfraction rfl⟩
  have hpoint : cutFirst (· == '.') (whole ++ '.' :: fraction) = (whole, some fraction) :=
    cutFirst_append_cons fraction (not_mark hwhole rfl) rfl
  simp [number?, hexponent, hpoint, digits?_of_isDigits, hwhole, hfraction, hboth]

/-- Digits with a point in them and an exponent. -/
theorem number?_point_exponent {whole fraction : List Char} (hwhole : IsDigits whole)
    (hfraction : IsDigits fraction) (e : Int) :
    number? (whole ++ '.' :: (fraction ++ 'e' :: Double.exponentText e)) =
      some (nearest (valueOf (whole ++ fraction)) (e - Int.ofNat fraction.length)) := by
  have hboth : IsDigits (whole ++ fraction) :=
    ⟨by simp [hwhole.ne_nil], List.forall_mem_append.2 ⟨hwhole.digit, hfraction.digit⟩⟩
  have hexponent : cutFirst (· == 'e') (whole ++ '.' :: (fraction ++ 'e' :: Double.exponentText e)) =
      (whole ++ '.' :: fraction, some (Double.exponentText e)) := by
    have hsplit : whole ++ '.' :: (fraction ++ 'e' :: Double.exponentText e) =
        (whole ++ '.' :: fraction) ++ 'e' :: Double.exponentText e := by simp
    rw [hsplit]
    refine cutFirst_append_cons _ (List.forall_mem_append.2 ⟨not_mark hwhole rfl, ?_⟩) rfl
    exact List.forall_mem_cons.2 ⟨rfl, not_mark hfraction rfl⟩
  have hpoint : cutFirst (· == '.') (whole ++ '.' :: fraction) = (whole, some fraction) :=
    cutFirst_append_cons fraction (not_mark hwhole rfl) rfl
  simp [number?, hexponent, hpoint, digits?_of_isDigits, hwhole, hfraction, hboth,
    exponent?_exponentText]

/-- Digits without a point, with an exponent. -/
theorem number?_exponent {whole : List Char} (hwhole : IsDigits whole) (e : Int) :
    number? (whole ++ 'e' :: Double.exponentText e) = some (nearest (valueOf whole) e) := by
  have hexponent : cutFirst (· == 'e') (whole ++ 'e' :: Double.exponentText e) =
      (whole, some (Double.exponentText e)) :=
    cutFirst_append_cons _ (not_mark hwhole rfl) rfl
  have hpoint : cutFirst (· == '.') whole = (whole, none) := cutFirst_of_none (not_mark hwhole rfl)
  simp [number?, hexponent, hpoint, digits?_of_isDigits, hwhole, exponent?_exponentText]

/-- The text is read as the double nearest to a decimal number with these digits and this scale. -/
def IsReadAsDecimal (s digits : List Char) (scale : Int) : Prop :=
  ∃ n e, number? s = some (nearest n e) ∧
    magnitudeOfDecimal n e = magnitudeOfDecimal (valueOf digits) scale

/-- Digits with the point at some place: the scale is the distance from the place to their end. -/
theorem isReadAsDecimal_positional {digits : List Char} (h : IsDigits digits) (point : Int) :
    IsReadAsDecimal (Double.positional digits point) digits (point - Int.ofNat digits.length) := by
  unfold Double.positional
  split
  · next hpoint =>
    -- The point is in front of all digits, with zeros up to the first one.
    have hfraction : IsDigits (List.replicate (-point).toNat '0' ++ digits) :=
      ⟨by simp [h.ne_nil], List.forall_mem_append.2 ⟨fun _ hc => isDigit_replicate hc, h.digit⟩⟩
    refine ⟨_, _, number?_point isDigits_zero hfraction, ?_⟩
    have hvalue : valueOf (['0'] ++ (List.replicate (-point).toNat '0' ++ digits)) =
        valueOf digits := by
      rw [show ['0'] = List.replicate 1 '0' from rfl, valueOf_zeros_append, valueOf_zeros_append]
    rw [hvalue, List.length_append, List.length_replicate]
    congr 1
    simp only [Int.ofNat_eq_natCast]
    omega
  · next hpoint =>
    dsimp only
    split
    · next hle =>
      -- Zeros up to the point, and one behind it.
      have hwhole : IsDigits (digits ++ List.replicate (point.toNat - digits.length) '0') :=
        ⟨by simp [h.ne_nil], List.forall_mem_append.2 ⟨h.digit, fun _ hc => isDigit_replicate hc⟩⟩
      refine ⟨_, _, number?_point hwhole isDigits_zero, ?_⟩
      have hvalue : valueOf (digits ++ List.replicate (point.toNat - digits.length) '0' ++ ['0']) =
          valueOf digits * tenTo (point.toNat - digits.length + 1) := by
        rw [show ['0'] = List.replicate 1 '0' from rfl, List.append_assoc,
          List.replicate_append_replicate, valueOf_append_zeros]
      rw [hvalue, Double.magnitudeOfDecimal_zeros]
      congr 1
      simp only [Int.ofNat_eq_natCast, List.length_singleton]
      omega
    · next hlt =>
      -- The point is among the digits.
      have hwhole : IsDigits (digits.take point.toNat) := by
        refine ⟨?_, fun c hc => h.digit c (List.mem_of_mem_take hc)⟩
        rw [Ne, List.take_eq_nil_iff, not_or]
        exact ⟨by omega, h.ne_nil⟩
      have hfraction : IsDigits (digits.drop point.toNat) := by
        refine ⟨?_, fun c hc => h.digit c (List.mem_of_mem_drop hc)⟩
        rw [Ne, List.drop_eq_nil_iff]
        exact hlt
      refine ⟨_, _, number?_point hwhole hfraction, ?_⟩
      rw [List.take_append_drop, List.length_drop]
      congr 1
      simp only [Int.ofNat_eq_natCast]
      omega

/-- Digits with the point behind the first one and an exponent. -/
theorem isReadAsDecimal_scientific {digits : List Char} (h : IsDigits digits) (point : Int) :
    IsReadAsDecimal (Double.scientific digits point) digits (point - Int.ofNat digits.length) := by
  cases digits with
  | nil => exact absurd rfl h.ne_nil
  | cons d rest =>
    have hwhole : IsDigits [d] := by
      refine ⟨List.cons_ne_nil d [], fun c hc => ?_⟩
      obtain rfl := List.mem_singleton.1 hc
      exact h.digit c List.mem_cons_self
    cases rest with
    | nil => exact ⟨_, _, number?_exponent hwhole (point - 1), rfl⟩
    | cons e rest =>
      have hfraction : IsDigits (e :: rest) :=
        ⟨List.cons_ne_nil e rest, fun c hc => h.digit c (List.mem_cons_of_mem d hc)⟩
      refine ⟨_, _, number?_point_exponent hwhole hfraction (point - 1), ?_⟩
      rw [List.singleton_append]
      congr 1
      simp only [Int.ofNat_eq_natCast, List.length_cons]
      omega

/-- Digits with the point at some place, in either notation. -/
theorem isReadAsDecimal_text {digits : List Char} (h : IsDigits digits) (point : Int) :
    IsReadAsDecimal
      (if Double.isPositional point then Double.positional digits point
        else Double.scientific digits point)
      digits (point - Int.ofNat digits.length) := by
  split
  · exact isReadAsDecimal_positional h point
  · exact isReadAsDecimal_scientific h point

/-- A list is what is left without the zeros at its end, and these. -/
theorem eq_append_zeros (s : List Char) :
    s = (s.reverse.dropWhile (· == '0')).reverse ++
      List.replicate (s.reverse.takeWhile (· == '0')).length '0' := by
  have hzero : ∀ c ∈ s.reverse.takeWhile (· == '0'), c = '0' := by
    intro c hc
    have htest := List.mem_takeWhile_imp (p := (· == '0')) hc
    simpa using htest
  have htake : s.reverse.takeWhile (· == '0') =
      List.replicate (s.reverse.takeWhile (· == '0')).length '0' :=
    List.eq_replicate_iff.2 ⟨rfl, hzero⟩
  calc s = (s.reverse.takeWhile (· == '0') ++ s.reverse.dropWhile (· == '0')).reverse := by
        rw [List.takeWhile_append_dropWhile, List.reverse_reverse]
    _ = (s.reverse.dropWhile (· == '0')).reverse ++
        (s.reverse.takeWhile (· == '0')).reverse := List.reverse_append
    _ = _ := congrArg _ (by rw [htake, List.reverse_replicate, List.length_replicate])

/-- The digits of a decimal without the zeros at their end, with the place of the point, are the
same number. -/
theorem significantDigits_spec {d : Double.Decimal} (hd : d.digits ≠ 0) :
    IsDigits (Double.significantDigits d).1 ∧
      magnitudeOfDecimal (valueOf (Double.significantDigits d).1)
          ((Double.significantDigits d).2 - Int.ofNat (Double.significantDigits d).1.length) =
        magnitudeOfDecimal d.digits d.scale := by
  have hall := isDigits_toDigits d.digits
  have hvalue : valueOf (Nat.toDigits 10 d.digits) = d.digits := Nat.ofDigitChars_ten_toDigits
  unfold Double.significantDigits
  dsimp only
  generalize Nat.toDigits 10 d.digits = all at hall hvalue ⊢
  have hsplit := eq_append_zeros all
  generalize (all.reverse.takeWhile (· == '0')).length = zeros at hsplit
  generalize (all.reverse.dropWhile (· == '0')).reverse = kept at hsplit ⊢
  have hkept : valueOf kept * tenTo zeros = d.digits := by
    rw [← hvalue, hsplit, valueOf_append_zeros]
  refine ⟨⟨?_, fun c hc => hall.digit c ?_⟩, ?_⟩
  · rintro rfl
    rw [show valueOf [] = 0 from rfl, Nat.zero_mul] at hkept
    exact hd hkept.symm
  · rw [hsplit]
    exact List.mem_append_left _ hc
  · rw [← hkept, Double.magnitudeOfDecimal_zeros, hsplit, List.length_append,
      List.length_replicate]
    congr 1
    simp only [Int.ofNat_eq_natCast]
    omega

/-- The double nearest to a decimal that has the magnitude of a finite double. -/
theorem nearest_eq {digits : Nat} {scale : Int} {x : Double} (hx : x.isFinite = true)
    (h : magnitudeOfDecimal digits scale = x.magnitude) :
    nearest digits scale = .double ⟨false, x.magnitude, x.magnitude_le⟩ := by
  have hle : x.magnitude ≤ Double.infinityMagnitude := Nat.le_of_lt (of_decide_eq_true hx)
  have hmin : min (magnitudeOfDecimal digits scale) Double.infinityMagnitude = x.magnitude := by
    rw [h, Nat.min_eq_left hle]
  show Json.double ⟨false, min (magnitudeOfDecimal digits scale) Double.infinityMagnitude, _⟩ = _
  simp only [hmin]

theorem number?_magnitudeText {x : Double} (hx : x.isFinite = true) :
    number? x.magnitudeText = some (.double ⟨false, x.magnitude, x.magnitude_le⟩) := by
  unfold Double.magnitudeText
  split
  · next hzero =>
    -- Zero is written with a point.
    have hread := number?_point isDigits_zero isDigits_zero
    refine hread.trans (congrArg some (nearest_eq hx ?_))
    rw [hzero]
    exact Double.magnitudeOfRatio_zero _
  · next hnot =>
    have hback := (Double.readsBack_iff x x.shortest).1 (Double.readsBack_shortest x)
    have hdigits : x.shortest.digits ≠ 0 := by
      intro hzero
      rw [hzero, magnitudeOfDecimal, Nat.zero_mul, Double.magnitudeOfRatio_zero] at hback
      exact hnot hback.symm
    obtain ⟨hkept, hvalue⟩ := significantDigits_spec hdigits
    -- The text is read as the shortest digits, and these are nearest to the double.
    obtain ⟨n, e, hnumber, hmagnitude⟩ :=
      isReadAsDecimal_text hkept (Double.significantDigits x.shortest).2
    exact hnumber.trans (congrArg some (nearest_eq hx (hmagnitude.trans (hvalue.trans hback))))

/-- A finite double is read as itself. -/
theorem word?_toText {x : Double} (hx : x.isFinite = true) :
    word? x.toText.toList = some (.double x) := by
  have hnumber := number?_magnitudeText hx
  have hnan : x.isNan = false := by
    have hlt : x.magnitude < Double.infinityMagnitude := of_decide_eq_true hx
    exact decide_eq_false (Nat.lt_asymm hlt)
  unfold Double.toText
  rw [hnan, hx, if_neg Bool.false_ne_true]
  dsimp only
  rw [if_pos rfl, String.toList_ofList]
  obtain ⟨negative, magnitude, hle⟩ := x
  -- Also the negative zero is kept apart, since the sign is put to the number that was read.
  cases negative with
  | true => exact word?_minus hnumber rfl
  | false => exact word?_of_number? hnumber

end ApiDiscovery.Literal
