import QueryBridge.Text.Numeral

/-!
# Hexadecimal digits

Digits are read in either case and written in the case that a format asks for.
-/

set_option autoImplicit false

namespace QueryBridge.Text

/-- The value of a hexadecimal digit. -/
def hexDigit? (c : Char) : Option Nat :=
  if c.isDigit then some (digitValue c)
  else if 'a' ≤ c && c ≤ 'f' then some (c.toNat - 'a'.toNat + 10)
  else if 'A' ≤ c && c ≤ 'F' then some (c.toNat - 'A'.toNat + 10)
  else none

/-- The value of hexadecimal digits read after those worth `n`. -/
def hexValue? (n : Nat) : List Char → Option Nat
  | [] => some n
  | c :: rest => (hexDigit? c).bind fun d => hexValue? (n * 16 + d) rest

/-- A hexadecimal digit in lower case. -/
def hexLower (n : Nat) : Char :=
  if n < 10 then Char.ofNat ('0'.toNat + n) else Char.ofNat ('a'.toNat + (n - 10))

/-- A hexadecimal digit in upper case. -/
def hexUpper (n : Nat) : Char :=
  if n < 10 then Char.ofNat ('0'.toNat + n) else Char.ofNat ('A'.toNat + (n - 10))

end QueryBridge.Text
