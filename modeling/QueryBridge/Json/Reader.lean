import QueryBridge.Text.Hexadecimal
import QueryBridge.Json.Value
import QueryBridge.Json.Number
import QueryBridge.Json.Fault

/-!
# Reading JSON

The reader takes one value and the white space around it, and reports the first
fault with its place. A cursor is the rest of the text and the number of octets
taken. A fault at a character that was only looked at counts one octet of it as
taken. Values nest less than 128 deep.
-/

set_option autoImplicit false

namespace QueryBridge.Json

/-- A place in a text: what is left of it and the number of octets in front. -/
structure Cursor where
  rest : List Char
  offset : Nat
  deriving DecidableEq, Repr

namespace Cursor

/-- The place behind the next character. -/
def next (here : Cursor) : Cursor :=
  match here.rest with
  | [] => here
  | c :: rest => ⟨rest, here.offset + c.utf8Size⟩

/-- The place behind the next `n` characters. -/
def skip : Nat → Cursor → Cursor
  | 0, here => here
  | n + 1, here => skip n here.next

/-- A fault right behind the characters taken so far. -/
def fault (here : Cursor) (kind : FaultKind) : Fault :=
  ⟨kind, here.offset⟩

/-- A fault at the next character, of which one octet counts as taken. -/
def peekFault (here : Cursor) (kind : FaultKind) : Fault :=
  ⟨kind, if here.rest.isEmpty then here.offset else here.offset + 1⟩

end Cursor

/-- The white space of JSON. -/
def isBlankChar (c : Char) : Bool :=
  c = ' ' || c = '\n' || c = '\t' || c = '\r'

/-- The place behind white space. -/
def skipBlank (here : Cursor) : Cursor :=
  let blank := here.rest.takeWhile isBlankChar
  ⟨here.rest.dropWhile isBlankChar, here.offset + blank.length⟩

/-- The place behind decimal digits. -/
def skipDigits (here : Cursor) : Cursor :=
  let digits := here.rest.takeWhile Char.isDigit
  ⟨here.rest.dropWhile Char.isDigit, here.offset + digits.length⟩

/-- What a step of the reader gives: a value and the place behind it, or a fault. -/
abbrev Result (α : Type) := Except Fault (α × Cursor)

/-- The remaining characters of the words `null`, `true` and `false`. -/
def readWord (value : Json) : List Char → Cursor → Result Json
  | [], here => .ok (value, here)
  | expected :: word, here =>
    match here.rest with
    | [] => .error (here.fault .endInValue)
    | c :: _ =>
      if c = expected then readWord value word here.next
      else .error (here.peekFault .expectedWord)

/-! ## Numbers -/

/-- The digits that still fit behind a significand, and how many they are. -/
def takeSignificand (significand count : Nat) : List Char → Nat × Nat
  | [] => (significand, count)
  | c :: rest =>
    let longer := significand * 10 + Text.digitValue c
    if c.isDigit && longer ≤ Text.maxWord then takeSignificand longer (count + 1) rest
    else (significand, count)

/-- A number whose significand and power of ten are read: it is in range or a fault. -/
def closeNumber (significand : Nat) (power : Int) (here : Cursor) : Except Fault Cursor :=
  if 0 ≤ power && Number.exceedsDouble significand power.toNat then
    .error (here.fault .numberOutOfRange)
  else .ok here

/-- The digits of an exponent behind its first one. -/
def readExponentDigits (significand : Nat) (power : Int) (negative : Bool) (exponent : Nat) :
    List Char → Cursor → Except Fault Cursor
  | [], here =>
    closeNumber significand (if negative then power - exponent else power + exponent) here
  | c :: rest, here =>
    if c.isDigit then
      let longer := exponent * 10 + Text.digitValue c
      if Number.maxExponent < longer then
        if significand ≠ 0 && !negative then .error (here.next.fault .numberOutOfRange)
        else .ok (skipDigits here)
      else readExponentDigits significand power negative longer rest here.next
    else closeNumber significand (if negative then power - exponent else power + exponent) here

/-- The exponent whose mark comes next. -/
def readExponent (significand : Nat) (power : Int) (here : Cursor) : Except Fault Cursor :=
  let behindMark := here.next
  let (negative, start) :=
    match behindMark.rest with
    | '+' :: _ => (false, behindMark.next)
    | '-' :: _ => (true, behindMark.next)
    | _ => (false, behindMark)
  match start.rest with
  | [] => .error (start.fault .endInValue)
  | c :: rest =>
    if c.isDigit then
      readExponentDigits significand power negative (Text.digitValue c) rest start.next
    else .error (start.peekFault .invalidNumber)

/-- The end of a number behind its digits: an exponent or nothing. -/
def readScale (significand : Nat) (power : Int) (here : Cursor) : Except Fault Cursor :=
  match here.rest with
  | 'e' :: _ | 'E' :: _ => readExponent significand power here
  | _ => closeNumber significand power here

/-- The fraction whose point comes next. -/
def readFraction (significand : Nat) (power : Int) (here : Cursor) : Except Fault Cursor :=
  let start := here.next
  let (longer, count) := takeSignificand significand 0 start.rest
  let behind := start.skip count
  let rest := skipDigits behind
  if count = 0 && rest.offset = behind.offset then
    .error (start.peekFault (if start.rest.isEmpty then .endInValue else .invalidNumber))
  else readScale longer (power - count) rest

/-- A number behind its integer digits: a fraction, an exponent or nothing. -/
def readNumberTail (significand : Nat) (power : Int) (here : Cursor) : Except Fault Cursor :=
  match here.rest with
  | '.' :: _ => readFraction significand power here
  | _ => readScale significand power here

/-- A number behind its sign. -/
def readUnsigned (here : Cursor) : Except Fault Cursor :=
  match here.rest with
  | [] => .error (here.fault .endInValue)
  | c :: _ =>
    if c = '0' then
      let behind := here.next
      if behind.rest.head?.any Char.isDigit then .error (behind.peekFault .invalidNumber)
      else readNumberTail 0 0 behind
    else if c.isDigit then
      let (significand, count) := takeSignificand 0 0 here.rest
      let behind := here.skip count
      let rest := skipDigits behind
      readNumberTail significand (rest.offset - behind.offset : Nat) rest
    else .error (here.peekFault .invalidNumber)

/-- A number, kept as it is written. -/
def readNumber (here : Cursor) : Result Json :=
  let start := if here.rest.head? = some '-' then here.next else here
  match readUnsigned start with
  | .error fault => .error fault
  | .ok behind =>
    .ok (.number (String.ofList (here.rest.take (behind.offset - here.offset))), behind)

/-! ## Strings -/

/-- The number of octets of a text. -/
def octets (s : List Char) : Nat :=
  s.foldl (fun n c => n + c.utf8Size) 0

/-- The four hexadecimal digits of an escape. Any four octets are taken before they are judged. -/
def readHex (here : Cursor) : Result Nat :=
  let left := octets (here.rest.take 4)
  if left < 4 then .error ⟨.endInString, here.offset + left⟩
  else
    match Text.hexValue? 0 (here.rest.take 4) with
    | some n => .ok (n, here.skip 4)
    | none => .error ⟨.invalidEscape, here.offset + 4⟩

/-- The fault of a leading surrogate that no escape follows. -/
def missingTrail (here : Cursor) : Fault :=
  match here.rest with
  | [] => here.fault .endInString
  | _ => ⟨.endOfHexEscape, here.offset + 1⟩

/-- The character of an escape whose `\u` is taken. -/
def readUnicodeEscape (here : Cursor) : Result Char :=
  match readHex here with
  | .error fault => .error fault
  | .ok (n, behind) =>
    if 0xDC00 ≤ n && n ≤ 0xDFFF then .error (behind.fault .loneSurrogate)
    else if n < 0xD800 || 0xDBFF < n then .ok (Char.ofNat n, behind)
    else
      match behind.rest with
      | '\\' :: 'u' :: _ =>
        match readHex (behind.skip 2) with
        | .error fault => .error fault
        | .ok (m, last) =>
          if m < 0xDC00 || 0xDFFF < m then .error (last.fault .loneSurrogate)
          else .ok (Char.ofNat (0x10000 + (n - 0xD800) * 0x400 + (m - 0xDC00)), last)
      | '\\' :: _ => .error (missingTrail behind.next)
      | _ => .error (missingTrail behind)

/-- The character of an escape whose backslash is taken. -/
def readEscape (here : Cursor) : Result Char :=
  match here.rest with
  | [] => .error (here.fault .endInString)
  | c :: _ =>
    match c with
    | '\x22' => .ok ('\x22', here.next)
    | '\\' => .ok ('\\', here.next)
    | '/' => .ok ('/', here.next)
    | 'b' => .ok ('\x08', here.next)
    | 'f' => .ok ('\x0c', here.next)
    | 'n' => .ok ('\n', here.next)
    | 'r' => .ok ('\r', here.next)
    | 't' => .ok ('\t', here.next)
    | 'u' => readUnicodeEscape here.next
    | _ => .error (here.peekFault .invalidEscape)

/-- The rest of a string whose characters so far are given backwards. Each round takes a
character, so as many rounds as characters are enough. -/
def readString (rounds : Nat) (read : List Char) (here : Cursor) : Result String :=
  match rounds, here.rest with
  | 0, _ | _, [] => .error (here.fault .endInString)
  | rounds + 1, c :: _ =>
    if c = '\x22' then .ok (String.ofList read.reverse, here.next)
    else if c = '\\' then
      match readEscape here.next with
      | .error fault => .error fault
      | .ok (e, behind) => readString rounds (e :: read) behind
    else if c.toNat < 0x20 then .error (here.next.fault .controlCharacter)
    else readString rounds (c :: read) here.next

/-- The string whose quotation mark comes next. -/
def readText (here : Cursor) : Result String :=
  readString here.rest.length [] here.next

/-! ## Values -/

/-- The place of the next item of a list behind an item, or nothing at the end of the list. -/
def nextItem (here : Cursor) : Except Fault (Option Cursor) :=
  match here.rest with
  | [] => .error (here.peekFault .endInList)
  | ']' :: _ => .ok none
  | ',' :: _ =>
    let behind := skipBlank here.next
    match behind.rest with
    | [] => .error (behind.peekFault .endInValue)
    | ']' :: _ => .error (behind.peekFault .trailingComma)
    | _ => .ok (some behind)
  | _ => .error (here.peekFault .expectedListCommaOrEnd)

/-- The place of the next key of an object behind a member, or nothing at the end of the object. -/
def nextKey (here : Cursor) : Except Fault (Option Cursor) :=
  match here.rest with
  | [] => .error (here.peekFault .endInObject)
  | '\x7d' :: _ => .ok none
  | ',' :: _ =>
    let behind := skipBlank here.next
    match behind.rest with
    | [] => .error (behind.peekFault .endInValue)
    | '\x7d' :: _ => .error (behind.peekFault .trailingComma)
    | _ => .ok (some behind)
  | _ => .error (here.peekFault .expectedObjectCommaOrEnd)

/-- A key and the colon behind it. -/
def readKey (here : Cursor) : Result String :=
  if here.rest.head? = some '\x22' then
    match readText here with
    | .error fault => .error fault
    | .ok (key, behind) =>
      let colon := skipBlank behind
      match colon.rest with
      | [] => .error (colon.peekFault .endInObject)
      | ':' :: _ => .ok (key, colon.next)
      | _ => .error (colon.peekFault .expectedColon)
  else .error (here.peekFault .keyNotString)

mutual

/-- A value with white space in front. `depth` more levels may open, and every round takes a
character or closes a value, so the rounds never run out before the text does. -/
def readValue (rounds depth : Nat) (before : Cursor) : Result Json :=
  let here := skipBlank before
  match rounds, here.rest with
  | 0, _ | _, [] => .error (here.peekFault .endInValue)
  | rounds + 1, c :: _ =>
    match c with
    | 'n' => readWord .null ['u', 'l', 'l'] here.next
    | 't' => readWord (.bool true) ['r', 'u', 'e'] here.next
    | 'f' => readWord (.bool false) ['a', 'l', 's', 'e'] here.next
    | '\x22' => (readText here).map fun (text, behind) => (.string text, behind)
    | '[' =>
      match depth with
      | 0 | 1 => .error (here.peekFault .tooDeep)
      | depth + 1 =>
        let start := skipBlank here.next
        match start.rest with
        | [] => .error (start.peekFault .endInList)
        | ']' :: _ => .ok (.array [], start.next)
        | _ => readItems rounds depth [] start
    | '\x7b' =>
      match depth with
      | 0 | 1 => .error (here.peekFault .tooDeep)
      | depth + 1 =>
        let start := skipBlank here.next
        match start.rest with
        | [] => .error (start.peekFault .endInObject)
        | '\x7d' :: _ => .ok (.object [], start.next)
        | _ => readMembers rounds depth [] start
    | _ =>
      if c = '-' || c.isDigit then readNumber here
      else .error (here.peekFault .expectedValue)

/-- The items of a list from the next one on; those before are given backwards. -/
def readItems (rounds depth : Nat) (read : List Json) (here : Cursor) : Result Json :=
  match rounds with
  | 0 => .error (here.peekFault .endInList)
  | rounds + 1 =>
    match readValue rounds depth here with
    | .error fault => .error fault
    | .ok (item, behind) =>
      match nextItem (skipBlank behind) with
      | .error fault => .error fault
      | .ok none => .ok (.array (item :: read).reverse, (skipBlank behind).next)
      | .ok (some start) => readItems rounds depth (item :: read) start

/-- The members of an object from the next one on; those before are given backwards. -/
def readMembers (rounds depth : Nat) (read : List (String × Json)) (here : Cursor) : Result Json :=
  match rounds with
  | 0 => .error (here.peekFault .endInObject)
  | rounds + 1 =>
    match readKey here with
    | .error fault => .error fault
    | .ok (key, colon) =>
      match readValue rounds depth colon with
      | .error fault => .error fault
      | .ok (value, behind) =>
        match nextKey (skipBlank behind) with
        | .error fault => .error fault
        | .ok none => .ok (.object ((key, value) :: read).reverse, (skipBlank behind).next)
        | .ok (some start) => readMembers rounds depth ((key, value) :: read) start

end

/-- The number of levels at which a text nests too deep. -/
def depthLimit : Nat := 128

/-- The value that a whole text spells. -/
def parse (text : List Char) : Except Fault Json :=
  match readValue (2 * text.length + 2) depthLimit ⟨text, 0⟩ with
  | .error fault => .error fault
  | .ok (value, behind) =>
    let last := skipBlank behind
    if last.rest.isEmpty then .ok value else .error (last.peekFault .trailingCharacters)

end QueryBridge.Json
