import QueryBridge.Text.Hexadecimal

/-!
# Strings of TOML

A basic string stands in quotation marks and has escapes; a literal string stands in
apostrophes and has none. Both come in a long form with three marks on either side,
which may hold line feeds. Readers begin behind the opening marks and give the text
and what stands behind the closing marks.
-/

set_option autoImplicit false

namespace QueryBridge.Toml

/-- The blanks of TOML. -/
def isBlank (c : Char) : Bool :=
  c = ' ' || c = '\t'

/-- A character that may stand as it is: a tab, or no control character. -/
def isPlain (c : Char) : Bool :=
  c = '\t' || (0x20 ≤ c.toNat && c.toNat ≠ 0x7F)

/-- What a reader gives: a value and what stands behind it. -/
abbrev Reading (α : Type) := Option (α × List Char)

/-- A reading with one more character in front of its text. -/
def push (c : Char) (reading : Reading (List Char)) : Reading (List Char) :=
  reading.map fun (text, rest) => (c :: text, rest)

/-- The character of an escape of one letter. -/
def shortEscape? : Char → Option Char
  | 'b' => some '\x08'
  | 't' => some '\t'
  | 'n' => some '\n'
  | 'f' => some '\x0c'
  | 'r' => some '\r'
  | 'e' => some '\x1b'
  | '\x22' => some '\x22'
  | '\\' => some '\\'
  | _ => none

/-- The number of digits of an escape by code point. -/
def escapeWidth? : Char → Option Nat
  | 'x' => some 2
  | 'u' => some 4
  | 'U' => some 8
  | _ => none

/-- The character with a code point, which no surrogate is. -/
def scalar? (n : Nat) : Option Char :=
  if n < 0xD800 || (0xDFFF < n && n < 0x110000) then some (Char.ofNat n) else none

/-- What the reader of a string with escapes waits for. -/
inductive Mode where
  | plain
  /-- The letter of an escape. -/
  | escape
  /-- `left` and one more digits of a code point, whose digits so far are worth `n`. -/
  | digits (left n : Nat)
  /-- The line feed that a backslash at the end of a line goes with. -/
  | lineEnd
  /-- The first character of text behind such a line feed. -/
  | margin
  deriving DecidableEq, Repr

/-- The text of a basic string. -/
def readBasic : Mode → List Char → Reading (List Char)
  | _, [] => none
  | mode, c :: rest =>
    match mode with
    | .escape =>
      match shortEscape? c, escapeWidth? c with
      | some d, _ => push d (readBasic .plain rest)
      | none, some width => readBasic (.digits (width - 1) 0) rest
      | none, none => none
    | .digits left n =>
      match Text.hexDigit? c, left with
      | none, _ => none
      | some d, left + 1 => readBasic (.digits left (n * 16 + d)) rest
      | some d, 0 => (scalar? (n * 16 + d)).bind fun e => push e (readBasic .plain rest)
    | _ =>
      if c = '\x22' then some ([], rest)
      else if c = '\\' then readBasic .escape rest
      else if isPlain c then push c (readBasic .plain rest)
      else none

/-- The text of a literal string. -/
def readLiteral : List Char → Reading (List Char)
  | [] => none
  | c :: rest =>
    if c = '\x27' then some ([], rest)
    else if isPlain c then push c (readLiteral rest)
    else none

/-- The end of a long string at three marks: up to two marks more belong to the text. -/
def closeLong (mark : Char) (s : List Char) : Reading (List Char) :=
  let marks := (s.takeWhile (· = mark)).length
  if marks ≤ 5 then some (List.replicate (marks - 3) mark, s.drop marks) else none

/-- Whether three marks come next. -/
def isClosing (mark : Char) (s : List Char) : Bool :=
  s.take 3 = [mark, mark, mark]

/-- Whether a character of a long string may stand where it does: a carriage return only in front
of a line feed. -/
def isLongPlain (c : Char) (rest : List Char) : Bool :=
  isPlain c || c = '\n' || (c = '\r' && rest.head? = some '\n')

/-- The text of a long basic string. -/
def readLongBasic : Mode → List Char → Reading (List Char)
  | _, [] => none
  | mode, c :: rest =>
    match mode with
    | .escape =>
      match shortEscape? c, escapeWidth? c with
      | some d, _ => push d (readLongBasic .plain rest)
      | none, some width => readLongBasic (.digits (width - 1) 0) rest
      | none, none =>
        if isBlank c || (c = '\r' && rest.head? = some '\n') then readLongBasic .lineEnd rest
        else if c = '\n' then readLongBasic .margin rest
        else none
    | .digits left n =>
      match Text.hexDigit? c, left with
      | none, _ => none
      | some d, left + 1 => readLongBasic (.digits left (n * 16 + d)) rest
      | some d, 0 => (scalar? (n * 16 + d)).bind fun e => push e (readLongBasic .plain rest)
    | .lineEnd =>
      if isBlank c || (c = '\r' && rest.head? = some '\n') then readLongBasic .lineEnd rest
      else if c = '\n' then readLongBasic .margin rest
      else none
    | mode =>
      if mode = .margin &&
          (isBlank c || c = '\n' || (c = '\r' && rest.head? = some '\n')) then
        readLongBasic .margin rest
      else if isClosing '\x22' (c :: rest) then closeLong '\x22' (c :: rest)
      else if c = '\\' then readLongBasic .escape rest
      else if isLongPlain c rest then push c (readLongBasic .plain rest)
      else none

/-- The text of a long literal string. -/
def readLongLiteral : List Char → Reading (List Char)
  | [] => none
  | c :: rest =>
    if isClosing '\x27' (c :: rest) then closeLong '\x27' (c :: rest)
    else if isLongPlain c rest then push c (readLongLiteral rest)
    else none

/-- A long string without the line feed right behind its opening marks. -/
def dropFirstLineFeed : List Char → List Char
  | '\n' :: rest => rest
  | '\r' :: '\n' :: rest => rest
  | s => s

/-- A string of one line, with its marks. -/
def readShort : List Char → Reading (List Char)
  | '\x22' :: rest => readBasic .plain rest
  | '\x27' :: rest => readLiteral rest
  | _ => none

/-- A string of any form, with its marks. -/
def readString : List Char → Reading (List Char)
  | '\x22' :: '\x22' :: '\x22' :: rest => readLongBasic .plain (dropFirstLineFeed rest)
  | '\x27' :: '\x27' :: '\x27' :: rest => readLongLiteral (dropFirstLineFeed rest)
  | s => readShort s

end QueryBridge.Toml
