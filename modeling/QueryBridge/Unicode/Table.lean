import QueryBridge.Text.Numeral

/-!
# Tables of character properties

A property is a table of rows in the order of code points. Each row says where it
starts and holds up to the next row. Tables are written as text: a row is a distance
from the row before in base 36, an upper-case letter, and numbers in base 36 that
dots separate.
-/

set_option autoImplicit false

namespace QueryBridge.Unicode

/-- One row of a table. -/
structure Row where
  start : Nat
  kind : Char
  payload : List Nat
  deriving DecidableEq, Repr, Inhabited

/-- A table of rows that start in ascending order. -/
abbrev Table := Array Row

/-- The value of a digit in base 36. -/
def digit36 (c : Char) : Nat :=
  if c.isDigit then c.toNat - '0'.toNat else c.toNat - 'a'.toNat + 10

/-- The number spelled by digits in base 36. -/
def number36 (s : List Char) : Nat :=
  s.foldl (fun n c => n * 36 + digit36 c) 0

/-- Whether a character is a digit in base 36. -/
def isDigit36 (c : Char) : Bool :=
  c.isDigit || c.isLower

/-- The row of a word that stands behind a row with the given start. -/
def Row.ofWord (before : Nat) (word : List Char) : Row :=
  let distance := number36 (word.takeWhile isDigit36)
  match word.dropWhile isDigit36 with
  | [] => ⟨before + distance, '?', []⟩
  | kind :: numbers =>
    ⟨before + distance, kind,
      if numbers.isEmpty then [] else (Text.splitAll (· = '.') numbers).map number36⟩

/-- The rows of words, the rows before being given. -/
def Table.extend (rows : Table) (words : List (List Char)) : Table :=
  words.foldl (fun rows word => rows.push (Row.ofWord (rows.back?.elim 0 Row.start) word)) rows

/-- The table that pieces of text spell. -/
def Table.ofPieces (pieces : List String) : Table :=
  pieces.foldl (fun rows piece =>
    rows.extend ((Text.splitAll (· = ' ') piece.toList).filter (!·.isEmpty))) #[]

/-- The index of the last row that starts at `code` or before, searched for in as many halvings as
given between an index that starts so and one that does not. -/
def Table.search (rows : Table) (code : Nat) : Nat → Nat → Nat → Nat
  | 0, low, _ => low
  | halvings + 1, low, high =>
    if high ≤ low + 1 then low
    else
      let middle := (low + high) / 2
      if rows[middle]?.any (·.start ≤ code) then rows.search code halvings middle high
      else rows.search code halvings low middle

/-- The row that holds for a code point. -/
def Table.row? (rows : Table) (code : Nat) : Option Row :=
  rows[rows.search code 32 0 rows.size]?

/-- The letter of the row that holds for a character. -/
def Table.kind (rows : Table) (c : Char) : Char :=
  (rows.row? c.toNat).elim '?' Row.kind

end QueryBridge.Unicode
