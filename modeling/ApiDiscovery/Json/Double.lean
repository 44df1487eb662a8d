/-!
# Double precision numbers

A double is a sign and a magnitude; the magnitudes are the bit patterns of the positive doubles
in their order, so the successor of a magnitude is the next larger number. Numbers are read by
rounding a ratio to the nearest magnitude, ties to the even one, and written with the fewest
significant digits that read back.
-/

namespace ApiDiscovery

/-- A power of two. -/
def Double.twoTo (n : Nat) : Nat := Nat.pow 2 n

/-- A power of ten. -/
def Double.tenTo (n : Nat) : Nat := Nat.pow 10 n

/-- The magnitude of infinity. -/
def Double.infinityMagnitude : Nat := 2047 * twoTo 52

/-- A double: a sign and the bits of its absolute value. One magnitude above infinity stands for
the value that is not a number. -/
structure Double where
  negative : Bool
  magnitude : Nat
  magnitude_le : magnitude ≤ Double.infinityMagnitude + 1
  deriving DecidableEq, Repr

namespace Double

/-- The double with the given sign whose magnitude is the given one, or infinite if that is too
large. -/
def ofMagnitude (negative : Bool) (magnitude : Nat) : Double :=
  ⟨negative, min magnitude infinityMagnitude, by omega⟩

/-- Infinity with a sign. -/
def infinity (negative : Bool) : Double := ofMagnitude negative infinityMagnitude

/-- The value that is not a number. -/
def nan : Double := ⟨false, infinityMagnitude + 1, Nat.le_refl _⟩

/-- Zero with a sign. -/
def zero (negative : Bool) : Double := ofMagnitude negative 0

/-- The double is neither infinite nor undefined. -/
def isFinite (x : Double) : Bool := x.magnitude < infinityMagnitude

/-- The double is the undefined one. -/
def isNan (x : Double) : Bool := infinityMagnitude < x.magnitude

/-- The integer significand of a finite double. -/
def significand (x : Double) : Nat :=
  if x.magnitude < twoTo 52 then x.magnitude else twoTo 52 + x.magnitude % twoTo 52

/-- The power of two that the significand of a finite double is multiplied by. -/
def exponent (x : Double) : Int :=
  if x.magnitude < twoTo 52 then -1074 else Int.ofNat (x.magnitude / twoTo 52) - 1075

/-- The absolute value of a finite double as numerator and denominator. -/
def ratio (x : Double) : Nat × Nat :=
  (x.significand * twoTo x.exponent.toNat, twoTo (-x.exponent).toNat)

/-- The quotient rounded to the nearest integer, a tie to the even one. -/
def roundedQuotient (num den : Nat) : Nat :=
  let q := num / den
  let r := num % den
  if 2 * r < den then q else if den < 2 * r then q + 1 else q + q % 2

/-- The significand of `num / den` for the power of two `e`, rounded. -/
def significandAt (num den : Nat) (e : Int) : Nat :=
  roundedQuotient (num * twoTo (-e).toNat) (den * twoTo e.toNat)

/-- The least power of two, not below that of the smallest double, for which `num / den` has a
significand below `2 ^ 53`. -/
def exponentFor (num den : Nat) : Int :=
  let guess : Int := max (-1074) (Int.ofNat num.log2 - Int.ofNat den.log2 - 53)
  if num * twoTo (-guess).toNat < den * twoTo guess.toNat * twoTo 53 then guess else guess + 1

/-- The magnitude nearest to `num / den`, a tie to the even one. -/
def magnitudeOfRatio (num den : Nat) : Nat :=
  if num = 0 then 0
  else
    let e := exponentFor num den
    significandAt num den e + (e + 1074).toNat * twoTo 52

/-- The double nearest to `num / den`. -/
def ofRatio (negative : Bool) (num den : Nat) : Double :=
  ofMagnitude negative (magnitudeOfRatio num den)

/-- The double nearest to `digits * 10 ^ e`, where `digits` has at most `count` digits. Beyond
the range of the doubles no power is computed. -/
def ofDecimal (negative : Bool) (digits : Nat) (count : Nat) (e : Int) : Double :=
  if digits = 0 then zero negative
  -- Far outside the range the answer is known without the power of ten.
  else if 400 < Int.ofNat count + e then
    if 400 < e then infinity negative
    else ofRatio negative (digits * tenTo e.toNat) (tenTo (-e).toNat)
  else if Int.ofNat count + e < -400 then zero negative
  else ofRatio negative (digits * tenTo e.toNat) (tenTo (-e).toNat)

/-! ## Addition -/

/-- The value of a finite double as a multiple of the smallest positive one. -/
def units (x : Double) : Int :=
  let n := Int.ofNat (x.significand * twoTo (x.exponent + 1074).toNat)
  if x.negative then -n else n

/-- The double nearest to an integer. -/
def ofInt (n : Int) : Double := ofRatio (n < 0) n.natAbs 1

/-- The double nearest to the sum. -/
def add (x y : Double) : Double :=
  if x.isNan || y.isNan then nan
  else if !x.isFinite then
    if !y.isFinite && x.negative != y.negative then nan else x
  else if !y.isFinite then y
  else
    let sum := x.units + y.units
    if sum = 0 then zero (x.negative && y.negative)
    else ofRatio (sum < 0) sum.natAbs (twoTo 1074)

/-! ## Shortest digits -/

/-- A decimal number `digits * 10 ^ scale`. -/
structure Decimal where
  digits : Nat
  scale : Int
  deriving DecidableEq, Repr

/-- The number of decimal digits, one for zero. -/
def digitCount (n : Nat) : Nat := (Nat.toDigits 10 n).length

/-- The least `p` with `num / den < 10 ^ p`, for a positive ratio. -/
def decimalPoint (num den : Nat) : Int :=
  if den ≤ num then Int.ofNat (digitCount (num / den))
  else
    let count := digitCount (den / num)
    if num * tenTo (count - 1) = den then 2 - Int.ofNat count else 1 - Int.ofNat count

/-- The decimal is read as the magnitude of `x`. -/
def readsBack (x : Double) (d : Decimal) : Bool :=
  magnitudeOfRatio (d.digits * tenTo d.scale.toNat) (tenTo (-d.scale).toNat) == x.magnitude

/-- The decimal on the grid of `10 ^ scale` that is read as `x` and nearest to it; of two equally
near ones the even one. -/
def nearestOn (x : Double) (scale : Int) : Option Decimal :=
  let (num, den) := x.ratio
  let num' := num * tenTo (-scale).toNat
  let den' := den * tenTo scale.toNat
  let low := num' / den'
  let r := num' % den'
  let below := readsBack x ⟨low, scale⟩
  let above := readsBack x ⟨low + 1, scale⟩
  if below && above then
    if 2 * r < den' then some ⟨low, scale⟩
    else if den' < 2 * r then some ⟨low + 1, scale⟩
    else some ⟨low + low % 2, scale⟩
  else if below then some ⟨low, scale⟩
  else if above then some ⟨low + 1, scale⟩
  else none

/-- All digits of a finite double. -/
def allDigits (x : Double) : Decimal :=
  if x.exponent < 0 then
    ⟨x.significand * Nat.pow 5 (-x.exponent).toNat, x.exponent⟩
  else ⟨x.significand * twoTo x.exponent.toNat, 0⟩

/-- The first grid among those with `count`, `count + 1`, … significant digits that has a decimal
read as `x`; all digits if none of `fuel` grids has one. -/
def shortestFrom (x : Double) (point : Int) : Nat → Nat → Decimal
  | 0, _ => allDigits x
  | fuel + 1, count =>
    match nearestOn x (point - Int.ofNat count) with
    | some d => d
    | none => shortestFrom x point fuel (count + 1)

/-- The decimal with the fewest digits that is read as the positive finite double `x`. -/
def shortest (x : Double) : Decimal :=
  let (num, den) := x.ratio
  shortestFrom x (decimalPoint num den) 17 1

/-! ## Text -/

/-- Which powers of ten are written without an exponent: from `10 ^ -4` to below `10 ^ 16`. -/
def isPositional (point : Int) : Bool := -4 < point && point ≤ 16

/-- The digits of a decimal without the zeros at the end, and the place of the point counted from
the first digit. -/
def significantDigits (d : Decimal) : List Char × Int :=
  let all := Nat.toDigits 10 d.digits
  let kept := (all.reverse.dropWhile (· == '0')).reverse
  (kept, Int.ofNat all.length + d.scale)

/-- The exponent of a number: a sign and at least two digits. -/
def exponentText (e : Int) : List Char :=
  let digits := Nat.toDigits 10 e.natAbs
  (if e < 0 then '-' else '+') :: (if digits.length < 2 then '0' :: digits else digits)

/-- Digits with a point after the first `point` of them. A whole number keeps one zero after the
point. -/
def positional (digits : List Char) (point : Int) : List Char :=
  if point ≤ 0 then
    '0' :: '.' :: (List.replicate (-point).toNat '0' ++ digits)
  else
    let n := point.toNat
    if digits.length ≤ n then
      digits ++ List.replicate (n - digits.length) '0' ++ ['.', '0']
    else digits.take n ++ '.' :: digits.drop n

/-- Digits with a point after the first one and an exponent. -/
def scientific (digits : List Char) (point : Int) : List Char :=
  match digits with
  | [] => []
  | [d] => d :: 'e' :: exponentText (point - 1)
  | d :: rest => d :: '.' :: (rest ++ 'e' :: exponentText (point - 1))

/-- The text of a nonnegative finite double. -/
def magnitudeText (x : Double) : List Char :=
  if x.magnitude = 0 then ['0', '.', '0']
  else
    let (digits, point) := significantDigits x.shortest
    if isPositional point then positional digits point else scientific digits point

/-- A double as text: the fewest digits that read back. -/
def toText (x : Double) : String :=
  if x.isNan then "nan"
  else
    let body := if x.isFinite then magnitudeText x else ['i', 'n', 'f']
    String.ofList (if x.negative then '-' :: body else body)

end Double
end ApiDiscovery
