import QueryBridge.Text.Utf8

/-!
# Why a text is no JSON

A fault is a kind and the number of octets taken up to it. The place of a fault is
counted in lines from one and in octets of the last line, so it can be column zero
right behind a line feed.
-/

set_option autoImplicit false

namespace QueryBridge.Json

/-- What is wrong with a text that is no JSON. -/
inductive FaultKind where
  | endInValue | endInString | endInList | endInObject
  | expectedValue | expectedWord | expectedColon
  | expectedListCommaOrEnd | expectedObjectCommaOrEnd
  | keyNotString | trailingComma | trailingCharacters
  | invalidNumber | numberOutOfRange
  | invalidEscape | endOfHexEscape | loneSurrogate | controlCharacter
  | tooDeep
  deriving DecidableEq, Repr

/-- The wording of a kind of fault. -/
def FaultKind.message : FaultKind → String
  | .endInValue => "EOF while parsing a value"
  | .endInString => "EOF while parsing a string"
  | .endInList => "EOF while parsing a list"
  | .endInObject => "EOF while parsing an object"
  | .expectedValue => "expected value"
  | .expectedWord => "expected ident"
  | .expectedColon => "expected \x60:\x60"
  | .expectedListCommaOrEnd => "expected \x60,\x60 or \x60]\x60"
  | .expectedObjectCommaOrEnd => "expected \x60,\x60 or \x60\x7d\x60"
  | .keyNotString => "key must be a string"
  | .trailingComma => "trailing comma"
  | .trailingCharacters => "trailing characters"
  | .invalidNumber => "invalid number"
  | .numberOutOfRange => "number out of range"
  | .invalidEscape => "invalid escape"
  | .endOfHexEscape => "unexpected end of hex escape"
  | .loneSurrogate => "lone leading surrogate in hex escape"
  | .controlCharacter => "control character (\\u0000-\\u001F) found while parsing a string"
  | .tooDeep => "recursion limit exceeded"

/-- A fault and the number of octets taken when it was seen. -/
structure Fault where
  kind : FaultKind
  offset : Nat
  deriving DecidableEq, Repr

/-- The line, counted from one, and the column in octets behind the given octets. -/
def placeAfter (line column : Nat) : List UInt8 → Nat × Nat
  | [] => (line, column)
  | b :: rest => if b = 10 then placeAfter (line + 1) 0 rest else placeAfter line (column + 1) rest

/-- What a fault in a text says: its kind and its place. -/
def Fault.message (fault : Fault) (text : List Char) : String :=
  let place := placeAfter 1 0 ((Text.Utf8.encode text).take fault.offset)
  fault.kind.message ++ " at line " ++ toString place.1 ++ " column " ++ toString place.2

end QueryBridge.Json
