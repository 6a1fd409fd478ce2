import QueryBridge.Text.Space

/-!
# Unsigned numerals

Numbers that a user types are unsigned 64-bit integers: an optional plus sign and
decimal digits, nothing else. Numbers that the program writes are plain decimals.
-/

set_option autoImplicit false

namespace QueryBridge.Text

/-- The largest unsigned 64-bit integer. -/
def maxWord : Nat := Nat.pow 2 64 - 1

/-- The value of a decimal digit. -/
def digitValue (c : Char) : Nat :=
  c.toNat - '0'.toNat

/-- The number that a list of decimal digits spells, read after the digits worth `n`. -/
def digitsValue (n : Nat) (s : List Char) : Nat :=
  s.foldl (fun value c => value * 10 + digitValue c) n

/-- The number spelled by a non-empty list of decimal digits. -/
def parseDigits? (s : List Char) : Option Nat :=
  if s.isEmpty || !s.all Char.isDigit then none else some (digitsValue 0 s)

/-- The text behind an optional plus sign. -/
def dropPlus : List Char → List Char
  | '+' :: rest => rest
  | s => s

/-- An unsigned 64-bit integer: one optional plus sign, then decimal digits. -/
def parseWord? (s : List Char) : Option Nat :=
  (parseDigits? (dropPlus s)).filter (· ≤ maxWord)

/-- The decimal digits of a number. -/
def decimal (n : Nat) : List Char :=
  Nat.toDigits 10 n

/-- A text filled up with `c` in front to at least `width` characters. -/
def padStart (width : Nat) (c : Char) (s : List Char) : List Char :=
  List.replicate (width - s.length) c ++ s

/-- A text filled up with `c` behind to at least `width` characters. -/
def padEnd (width : Nat) (c : Char) (s : List Char) : List Char :=
  s ++ List.replicate (width - s.length) c

end QueryBridge.Text
