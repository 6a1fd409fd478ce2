/-!
# Base 64

Three octets are written as four characters of six bits each. One or two octets at
the end are written as two or three characters, and equals signs fill up the four.
-/

set_option autoImplicit false

namespace QueryBridge.Text

/-- The characters for the numbers from 0 to 63. -/
def base64Alphabet : List Char :=
  "ABCDEFGHIJKLMNOPQRSTUVWXYZabcdefghijklmnopqrstuvwxyz0123456789+/".toList

/-- The character for six bits. -/
def base64Char (n : Nat) : Char :=
  base64Alphabet.getD (n % 64) '='

/-- Octets in base 64. -/
def base64 : List UInt8 → List Char
  | a :: b :: c :: rest =>
    let n := (a.toNat * 256 + b.toNat) * 256 + c.toNat
    base64Char (n / 262144) :: base64Char (n / 4096) :: base64Char (n / 64) :: base64Char n ::
      base64 rest
  | [a, b] =>
    let n := (a.toNat * 256 + b.toNat) * 4
    [base64Char (n / 4096), base64Char (n / 64), base64Char n, '=']
  | [a] => [base64Char (a.toNat / 4), base64Char (a.toNat * 16), '=', '=']
  | [] => []

end QueryBridge.Text
