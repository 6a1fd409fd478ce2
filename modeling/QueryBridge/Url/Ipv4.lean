import QueryBridge.Text.Hexadecimal

/-!
# IPv4 addresses

A host whose last part is a number is an IPv4 address: one to four numbers, decimal,
octal behind a zero or hexadecimal behind `0x`, the last of which fills what the
others leave.
-/

set_option autoImplicit false

namespace QueryBridge.Url.Ipv4

/-- The number spelled by the digits of a base. -/
def numberIn? (base : Nat) (digits : List Char) : Option Nat :=
  digits.foldl (fun value c =>
    value.bind fun n =>
      ((Text.hexDigit? c).filter (· < base)).map fun digit => n * base + digit) (some 0)

/-- The number of a part; a bare mark of a base is zero. -/
def number? : List Char → Option Nat
  | [] => none
  | ['0'] => some 0
  | '0' :: 'x' :: digits | '0' :: 'X' :: digits => numberIn? 16 digits
  | '0' :: digits => numberIn? 8 digits
  | digits => numberIn? 10 digits

/-- The parts of a host between dots, without an empty last one. -/
def parts (host : List Char) : List (List Char) :=
  let all := Text.splitAll (· = '.') host
  if all.getLast? = some [] && 1 < all.length then all.dropLast else all

/-- Whether a host is meant as an IPv4 address: its last part is a number, or decimal digits. -/
def isMeant (host : List Char) : Bool :=
  (parts host).getLast?.any fun last =>
    (!last.isEmpty && last.all Char.isDigit) || (number? last).isSome

/-- The numbers of all parts. -/
def numbers? : List (List Char) → Option (List Nat)
  | [] => some []
  | part :: rest => (number? part).bind fun n => (numbers? rest).map (n :: ·)

/-- The address of numbers: each but the last is an octet, and the last fills the rest. -/
def ofNumbers? (numbers : List Nat) : Option Nat :=
  let heads := numbers.dropLast
  let last := numbers.getLast?.getD 0
  if 4 < numbers.length || numbers.isEmpty || heads.any (255 < ·) ||
      Nat.pow 256 (4 - heads.length) ≤ last then none
  else some (heads.foldl (fun value n => value * 256 + n) 0 * Nat.pow 256 (4 - heads.length) + last)

/-- The address that a host spells. -/
def parse? (host : List Char) : Option Nat :=
  (numbers? (parts host)).bind ofNumbers?

/-- The octets of an address with dots between them. -/
def write (address : Nat) : List Char :=
  Text.decimal (address / Nat.pow 256 3 % 256) ++ '.' ::
    Text.decimal (address / Nat.pow 256 2 % 256) ++ '.' :: Text.decimal (address / 256 % 256) ++
    '.' :: Text.decimal (address % 256)

end QueryBridge.Url.Ipv4
