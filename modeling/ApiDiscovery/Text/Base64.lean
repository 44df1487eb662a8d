/-!
# Base 64

Bytes written in letters of ASCII: three bytes are four digits of base 64, and equals signs stand
for what is missing in the last three.
-/

namespace ApiDiscovery.Text.Base64

/-- The digits in the order of their values. -/
def digits : List Char :=
  "ABCDEFGHIJKLMNOPQRSTUVWXYZabcdefghijklmnopqrstuvwxyz0123456789+/".toList

/-- The digit of the lowest six bits of a number. -/
def digit (n : Nat) : Char := (digits[n % 64]?).getD '='

/-- The bytes in letters of ASCII. -/
def encode : List UInt8 → List Char
  | [] => []
  | [a] => [digit (a.toNat / 4), digit (a.toNat * 16), '=', '=']
  | [a, b] =>
    let n := a.toNat * 256 + b.toNat
    [digit (n / 1024), digit (n / 16), digit (n * 4), '=']
  | a :: b :: c :: rest =>
    let n := a.toNat * 65536 + b.toNat * 256 + c.toNat
    digit (n / 262144) :: digit (n / 4096) :: digit (n / 64) :: digit n :: encode rest

end ApiDiscovery.Text.Base64
