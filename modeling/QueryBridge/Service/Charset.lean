import QueryBridge.Text.Utf8
import QueryBridge.Text.Space

/-!
# Character sets of replies

The octets of a reply are read in the character set that its media type names, or as
UTF-8. A byte order mark at the start wins over both and is no part of the text.
Octets that spell nothing are read as U+FFFD.
-/

set_option autoImplicit false

namespace QueryBridge.Service

/-- The character sets that are told apart. -/
inductive Charset where
  | utf8 | utf16Little | utf16Big | western
  deriving DecidableEq, Repr

namespace Charset

/-- The names of character sets, in lower case. -/
def names : List (String × Charset) :=
  [("utf-8", .utf8), ("utf8", .utf8), ("unicode-1-1-utf-8", .utf8),
    ("utf-16", .utf16Little), ("utf-16le", .utf16Little), ("ucs-2", .utf16Little),
    ("iso-10646-ucs-2", .utf16Little), ("unicode", .utf16Little), ("csunicode", .utf16Little),
    ("unicodefeff", .utf16Little), ("utf-16be", .utf16Big), ("unicodefffe", .utf16Big),
    ("iso-8859-1", .western), ("iso8859-1", .western), ("iso88591", .western),
    ("iso_8859-1", .western), ("latin1", .western), ("l1", .western), ("us-ascii", .western),
    ("ascii", .western), ("ansi_x3.4-1968", .western), ("windows-1252", .western),
    ("cp1252", .western), ("x-cp1252", .western), ("cp819", .western), ("ibm819", .western)]

/-- The character set with a name in any case, with white space around it. -/
def ofName? (name : List Char) : Option Charset :=
  names.lookup (String.ofList ((Text.trim name).map Char.toLower))

/-- The value of a parameter without the quotation marks around it. -/
def unquote (value : List Char) : List Char :=
  match value with
  | '\x22' :: rest => rest.takeWhile (· ≠ '\x22')
  | _ => value

/-- The value of the parameter of a media type that names the character set. -/
def parameter? (mediaType : String) : Option (List Char) :=
  ((Text.splitAll (· = ';') mediaType.toList).drop 1).findSome? fun piece =>
    let name := (Text.trim (piece.takeWhile (· ≠ '='))).map Char.toLower
    if name = "charset".toList then some (unquote (Text.trim ((piece.dropWhile (· ≠ '=')).drop 1)))
    else none

/-- The character set that a media type names. -/
def ofMediaType (mediaType : Option String) : Charset :=
  ((mediaType.bind parameter?).bind ofName?).getD .utf8

/-- The character set of a byte order mark, and the octets behind it. -/
def byteOrder? : List UInt8 → Option (Charset × List UInt8)
  | 0xEF :: 0xBB :: 0xBF :: rest => some (.utf8, rest)
  | 0xFF :: 0xFE :: rest => some (.utf16Little, rest)
  | 0xFE :: 0xFF :: rest => some (.utf16Big, rest)
  | _ => none

/-- The 16-bit units of octets, the second octet of each being the higher one. A lone octet at the
end makes no unit. -/
def unitsLittle : List UInt8 → List Nat
  | low :: high :: rest => (high.toNat * 256 + low.toNat) :: unitsLittle rest
  | _ => []

/-- The 16-bit units of octets, the first octet of each being the higher one. A lone octet at the
end makes no unit. -/
def unitsBig : List UInt8 → List Nat
  | high :: low :: rest => (high.toNat * 256 + low.toNat) :: unitsBig rest
  | _ => []

/-- The characters of 16-bit units. A surrogate without its partner spells nothing. -/
def ofUnits : List Nat → List Char
  | [] => []
  | [n] => [if 0xD800 ≤ n && n ≤ 0xDFFF then '\uFFFD' else Char.ofNat n]
  | n :: m :: rest =>
    if 0xD800 ≤ n && n ≤ 0xDBFF && 0xDC00 ≤ m && m ≤ 0xDFFF then
      Char.ofNat (0x10000 + (n - 0xD800) * 0x400 + (m - 0xDC00)) :: ofUnits rest
    else (if 0xD800 ≤ n && n ≤ 0xDFFF then '\uFFFD' else Char.ofNat n) :: ofUnits (m :: rest)

/-- The characters that the western set has at the octets from 0x80 to 0x9F. -/
def westernTable : List Nat :=
  [0x20AC, 0x81, 0x201A, 0x0192, 0x201E, 0x2026, 0x2020, 0x2021, 0x02C6, 0x2030, 0x0160, 0x2039,
    0x0152, 0x8D, 0x017D, 0x8F, 0x90, 0x2018, 0x2019, 0x201C, 0x201D, 0x2022, 0x2013, 0x2014,
    0x02DC, 0x2122, 0x0161, 0x203A, 0x0153, 0x9D, 0x017E, 0x0178]

/-- The character of an octet in the western set. -/
def westernChar (b : UInt8) : Char :=
  if 0x80 ≤ b && b < 0xA0 then Char.ofNat (westernTable.getD (b.toNat - 0x80) 0xFFFD)
  else Char.ofNat b.toNat

/-- The mark for octets at the end that make no unit. -/
def loneOctet (octets : List UInt8) : List Char :=
  if octets.length % 2 = 1 then ['\uFFFD'] else []

/-- The characters of octets in a character set. -/
def decodeIn (charset : Charset) (octets : List UInt8) : List Char :=
  match charset with
  | .utf8 => Text.Utf8.decodeLossy octets
  | .utf16Little => ofUnits (unitsLittle octets) ++ loneOctet octets
  | .utf16Big => ofUnits (unitsBig octets) ++ loneOctet octets
  | .western => octets.map westernChar

/-- The characters of the octets of a reply with a media type. -/
def decode (mediaType : Option String) (octets : List UInt8) : List Char :=
  match byteOrder? octets with
  | some (charset, rest) => decodeIn charset rest
  | none => decodeIn (ofMediaType mediaType) octets

end Charset

end QueryBridge.Service
