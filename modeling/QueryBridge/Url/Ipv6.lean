import QueryBridge.Text.Hexadecimal

/-!
# IPv6 addresses

An address has eight pieces of one to four hexadecimal digits. One run of zero
pieces may be written as two colons, and the last two pieces as an IPv4 address of
four decimal numbers.
-/

set_option autoImplicit false

namespace QueryBridge.Url.Ipv6

/-- A piece: one to four hexadecimal digits. -/
def piece? (s : List Char) : Option Nat :=
  if s.isEmpty || 4 < s.length then none else Text.hexValue? 0 s

/-- A decimal number up to 255 without a zero in front. -/
def octet? (s : List Char) : Option Nat :=
  if s.head? = some '0' && 1 < s.length then none
  else (Text.parseDigits? s).filter (· ≤ 255)

/-- The two pieces of an IPv4 address. -/
def tail? (s : List Char) : Option (List Nat) :=
  match (Text.splitAll (· = '.') s).map octet? with
  | [some a, some b, some c, some d] => some [a * 256 + b, c * 256 + d]
  | _ => none

/-- The pieces between colons, the last of which may be an IPv4 address if that is allowed. -/
def pieces? (ipv4 : Bool) : List (List Char) → Option (List Nat)
  | [] => some []
  | [last] =>
    if ipv4 && last.contains '.' then tail? last else (piece? last).map fun n => [n]
  | first :: rest => (piece? first).bind fun n => (pieces? ipv4 rest).map (n :: ·)

/-- The pieces of a side of two colons, which may be empty. -/
def side? (ipv4 : Bool) (s : List Char) : Option (List Nat) :=
  if s.isEmpty then some [] else pieces? ipv4 (Text.splitAll (· = ':') s)

/-- The text in front of the first two colons and behind them, the text so far given backwards. -/
def splitColons (before : List Char) : List Char → Option (List Char × List Char)
  | [] => none
  | ':' :: ':' :: rest => some (before.reverse, rest)
  | c :: rest => splitColons (c :: before) rest

/-- The eight pieces that a text spells. -/
def parse? (s : List Char) : Option (List Nat) :=
  match splitColons [] s with
  | none => (side? true s).filter (·.length = 8)
  | some (left, right) =>
    (side? false left).bind fun first =>
      (side? true right).bind fun last =>
        if first.length + last.length < 8 then
          some (first ++ List.replicate (8 - first.length - last.length) 0 ++ last)
        else none

/-- The hexadecimal digits of a piece. -/
def writePiece (n : Nat) : List Char :=
  Nat.toDigits 16 n

/-- The length of the run of zeros at the head. -/
def zeros (pieces : List Nat) : Nat :=
  (pieces.takeWhile (· = 0)).length

/-- The first longest run of zeros, as its place and length, among runs from a place on. -/
def longestRun (place : Nat) : List Nat → Nat × Nat
  | [] => (place, 0)
  | n :: rest =>
    let here := zeros (n :: rest)
    let later := longestRun (place + 1) rest
    if later.2 ≤ here then (place, here) else later

/-- Pieces with colons between them. -/
def joinColons : List Nat → List Char
  | [] => []
  | [n] => writePiece n
  | n :: rest => writePiece n ++ ':' :: joinColons rest

/-- An address in brackets, its first longest run of two zero pieces or more as two colons. -/
def write (pieces : List Nat) : List Char :=
  let (place, count) := longestRun 0 pieces
  let body :=
    if count < 2 then joinColons pieces
    else joinColons (pieces.take place) ++ ':' :: ':' :: joinColons (pieces.drop (place + count))
  '[' :: body ++ [']']

end QueryBridge.Url.Ipv6
