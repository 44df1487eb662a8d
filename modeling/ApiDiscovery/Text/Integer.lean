import ApiDiscovery.Text.Blank
import ApiDiscovery.Text.Digit

/-!
# Whole numbers in running text

A whole number may stand between white space, have a sign, use the decimal digits of any script and
have single underscores between its digits.
-/

namespace ApiDiscovery.Text

/-- The value of digits with single underscores between them, `value` being that of the digits
before; there is none if another character occurs or an underscore does not stand between two
digits. -/
def digitsFrom (value : Nat) : List Char → Option Nat
  | [] => some value
  | '_' :: c :: rest =>
    match digitValue? c with
    | some d => digitsFrom (10 * value + d) rest
    | none => none
  | c :: rest =>
    match digitValue? c with
    | some d => digitsFrom (10 * value + d) rest
    | none => none

/-- The value of a list that starts with a digit and has digits and single underscores only. -/
def digits? : List Char → Option Nat
  | [] => none
  | c :: rest => (digitValue? c).bind fun d => digitsFrom d rest

/-- The most digits that a number in decimal may have to be read. -/
def maxDigits : Nat := 4300

/-- The words for a number with too many digits. -/
def tooManyDigits (digits : Nat) : String :=
  "Exceeds the limit (4300 digits) for integer string conversion: value has " ++
    toString digits ++ " digits; use sys.set_int_max_str_digits() to increase the limit"

/-- The whole number that a text stands for, unless it has too many digits. -/
def integer? (s : List Char) : Option Int :=
  let body := trim s
  if maxDigits < (body.filter isDecimalDigit).length then none
  else
    match body with
    | '-' :: rest => (digits? rest).map fun n => -Int.ofNat n
    | '+' :: rest => (digits? rest).map Int.ofNat
    | rest => (digits? rest).map Int.ofNat

end ApiDiscovery.Text
