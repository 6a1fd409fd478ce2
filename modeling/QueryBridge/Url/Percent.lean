import QueryBridge.Text.Utf8
import QueryBridge.Text.Hexadecimal

/-!
# Percent encoding

A part of a URL writes the octets that it may not hold as a percent sign and two
hexadecimal digits in upper case. Control characters and octets beyond ASCII are
always written so; what else is depends on the part.
-/

set_option autoImplicit false

namespace QueryBridge.Url.Percent

/-- The characters that a fragment does not hold. -/
def fragmentSet : List Char := [' ', '\x22', '<', '>', '\x60']

/-- The characters that the query of a web address does not hold. -/
def querySet : List Char := [' ', '\x22', '#', '<', '>', '\x27']

/-- The characters that a path does not hold. -/
def pathSet : List Char := fragmentSet ++ ['#', '?', '\x7b', '\x7d']

/-- The characters that a user name or a password does not hold. -/
def userSet : List Char := pathSet ++ ['/', ':', ';', '=', '@', '[', '\\', ']', '^', '|']

/-- The three characters for an octet. -/
def encodeOctet (b : UInt8) : List Char :=
  ['%', Text.hexUpper (b.toNat / 16), Text.hexUpper (b.toNat % 16)]

/-- A character in a part of a URL that does not hold those of a set. -/
def encodeChar (set : List Char) (c : Char) : List Char :=
  if c.toNat < 0x20 || 0x7E < c.toNat || set.contains c then
    (String.utf8EncodeChar c).flatMap encodeOctet
  else [c]

/-- A part of a URL that does not hold the characters of a set. -/
def encode (set : List Char) (s : List Char) : List Char :=
  s.flatMap (encodeChar set)

/-- The octet that two hexadecimal digits spell. -/
def octet? (a b : UInt8) : Option UInt8 :=
  (Text.hexDigit? (Char.ofNat a.toNat)).bind fun high =>
    (Text.hexDigit? (Char.ofNat b.toNat)).map fun low => UInt8.ofNat (high * 16 + low)

/-- The octets that percent-encoded octets stand for; a percent sign without two digits stays. -/
def decodeOctets : List UInt8 → List UInt8
  | 0x25 :: a :: b :: rest =>
    match octet? a b with
    | some octet => octet :: decodeOctets rest
    | none => 0x25 :: decodeOctets (a :: b :: rest)
  | a :: rest => a :: decodeOctets rest
  | [] => []

/-- The text that a percent-encoded text stands for. -/
def decode (s : List Char) : List Char :=
  if s.contains '%' then Text.Utf8.decodeLossy (decodeOctets (Text.Utf8.encode s)) else s

end QueryBridge.Url.Percent
