/-!
# UTF-8

Strict decoding reports the first ill-formed place: its index, and the length of
the longest beginning there that some well-formed sequence shares, unless the text
simply ends inside such a beginning. Forgiving decoding replaces each such
beginning by U+FFFD.
-/

set_option autoImplicit false

namespace QueryBridge.Text.Utf8

/-- Octets that are not UTF-8. -/
inductive Fault where
  /-- `length` octets at `index` begin a character that does not go on as it must. -/
  | invalid (length index : Nat)
  /-- The text ends inside the character that begins at `index`. -/
  | incomplete (index : Nat)
  deriving DecidableEq, Repr

/-- What a decoding fault says. -/
def Fault.message : Fault → String
  | .invalid length index =>
    "invalid utf-8 sequence of " ++ toString length ++ " bytes from index " ++ toString index
  | .incomplete index => "incomplete utf-8 byte sequence from index " ++ toString index

/-- A continuation octet. -/
def isTail (b : UInt8) : Bool :=
  0x80 ≤ b && b ≤ 0xBF

/-- A second octet that may follow the first octet `a` of a three-octet character. -/
def isSecondOfThree (a b : UInt8) : Bool :=
  if a = 0xE0 then 0xA0 ≤ b && b ≤ 0xBF
  else if a = 0xED then 0x80 ≤ b && b ≤ 0x9F
  else isTail b

/-- A second octet that may follow the first octet `a` of a four-octet character. -/
def isSecondOfFour (a b : UInt8) : Bool :=
  if a = 0xF0 then 0x90 ≤ b && b ≤ 0xBF
  else if a = 0xF4 then 0x80 ≤ b && b ≤ 0x8F
  else isTail b

/-- How the octets at the head of a text begin. -/
inductive Lead where
  /-- A whole character of `width` octets. -/
  | char (c : Char) (width : Nat)
  /-- `length` octets that no character continues. -/
  | broken (length : Nat)
  /-- A true beginning of a character at the end of the text. -/
  | cut
  deriving DecidableEq, Repr

/-- The character of two octets. -/
def charOfTwo (a b : UInt8) : Char :=
  Char.ofNat ((a.toNat - 0xC0) * 64 + (b.toNat - 0x80))

/-- The character of three octets. -/
def charOfThree (a b c : UInt8) : Char :=
  Char.ofNat ((a.toNat - 0xE0) * 4096 + (b.toNat - 0x80) * 64 + (c.toNat - 0x80))

/-- The character of four octets. -/
def charOfFour (a b c d : UInt8) : Char :=
  Char.ofNat ((a.toNat - 0xF0) * 262144 + (b.toNat - 0x80) * 4096 + (c.toNat - 0x80) * 64 +
    (d.toNat - 0x80))

/-- The beginning of a text whose first octet is `a`. -/
def lead (a : UInt8) (rest : List UInt8) : Lead :=
  if a < 0x80 then .char (Char.ofNat a.toNat) 1
  else if 0xC2 ≤ a && a ≤ 0xDF then
    match rest with
    | [] => .cut
    | b :: _ => if isTail b then .char (charOfTwo a b) 2 else .broken 1
  else if 0xE0 ≤ a && a ≤ 0xEF then
    match rest with
    | [] => .cut
    | b :: rest =>
      if isSecondOfThree a b then
        match rest with
        | [] => .cut
        | c :: _ => if isTail c then .char (charOfThree a b c) 3 else .broken 2
      else .broken 1
  else if 0xF0 ≤ a && a ≤ 0xF4 then
    match rest with
    | [] => .cut
    | b :: rest =>
      if isSecondOfFour a b then
        match rest with
        | [] => .cut
        | c :: rest =>
          if isTail c then
            match rest with
            | [] => .cut
            | d :: _ => if isTail d then .char (charOfFour a b c d) 4 else .broken 3
          else .broken 2
      else .broken 1
  else .broken 1

/-- Strict decoding of the octets from `index` on, of which the first `skip` belong to a character
already read. -/
def decodeFrom (index skip : Nat) (read : List Char) : List UInt8 → Except Fault (List Char)
  | [] => .ok read.reverse
  | a :: rest =>
    match skip with
    | skip + 1 => decodeFrom (index + 1) skip read rest
    | 0 =>
      match lead a rest with
      | .char c width => decodeFrom (index + 1) (width - 1) (c :: read) rest
      | .broken length => .error (.invalid length index)
      | .cut => .error (.incomplete index)

/-- The characters of well-formed UTF-8, or the first fault. -/
def decode (bytes : List UInt8) : Except Fault (List Char) :=
  decodeFrom 0 0 [] bytes

/-- Forgiving decoding of octets of which the first `skip` are dealt with. -/
def decodeLossyFrom (skip : Nat) (read : List Char) : List UInt8 → List Char
  | [] => read.reverse
  | a :: rest =>
    match skip with
    | skip + 1 => decodeLossyFrom skip read rest
    | 0 =>
      match lead a rest with
      | .char c width => decodeLossyFrom (width - 1) (c :: read) rest
      | .broken length => decodeLossyFrom (length - 1) ('\uFFFD' :: read) rest
      | .cut => ('\uFFFD' :: read).reverse

/-- The characters of a text in which each ill-formed beginning counts as U+FFFD. -/
def decodeLossy (bytes : List UInt8) : List Char :=
  decodeLossyFrom 0 [] bytes

/-- The octets of a text. -/
def encode (s : List Char) : List UInt8 :=
  s.flatMap String.utf8EncodeChar

end QueryBridge.Text.Utf8
