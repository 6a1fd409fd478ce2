import QueryBridge.Unicode.Table
import QueryBridge.Unicode.Composition
import QueryBridge.Unicode.CombiningClass

/-!
# Normal form C

Characters are taken apart, marks are put into canonical order, and what can be
composed is composed again. Hangul syllables are computed, all else comes from the
tables.
-/

set_option autoImplicit false

namespace QueryBridge.Unicode.Normal

/-- The composites and their parts. -/
def composites : Table := Table.ofPieces Composition.rows

/-- The canonical combining classes. -/
def classes : Table := Table.ofPieces CombiningClass.rows

/-- The canonical combining class of a character. -/
def combiningClass (c : Char) : Nat :=
  (classes.row? c.toNat).elim 0 fun row => row.payload.headD 0

/-- The first Hangul syllable. -/
def firstSyllable : Nat := 0xAC00

/-- The number of Hangul syllables. -/
def syllables : Nat := 11172

/-- The number of Hangul vowels. -/
def vowels : Nat := 21

/-- The number of Hangul finals, the absent one included. -/
def finals : Nat := 28

/-- The jamos of a Hangul syllable with a number counted from the first one. -/
def jamos (index : Nat) : List Char :=
  let leading := Char.ofNat (0x1100 + index / (vowels * finals))
  let vowel := Char.ofNat (0x1161 + index % (vowels * finals) / finals)
  if index % finals = 0 then [leading, vowel]
  else [leading, vowel, Char.ofNat (0x11A7 + index % finals)]

/-- The two parts in a row, if it is the row of the composite character at a code point. -/
def partsIn? (code : Nat) (row : Row) : Option (Char × Char) :=
  match row.payload with
  | [first, second] =>
    if row.start = code then some (Char.ofNat first, Char.ofNat second) else none
  | _ => none

/-- The two parts of a composite character. -/
def parts? (c : Char) : Option (Char × Char) :=
  (composites.row? c.toNat).bind (partsIn? c.toNat)

/-- A character taken apart as often as given. -/
def decompose : Nat → Char → List Char
  | 0, c => [c]
  | depth + 1, c =>
    if firstSyllable ≤ c.toNat && c.toNat < firstSyllable + syllables then
      jamos (c.toNat - firstSyllable)
    else
      (parts? c).elim [c] fun parts => decompose depth parts.1 ++ [parts.2]

/-- Composites nest at most this deep. -/
def maxDepth : Nat := 8

/-- Puts a character behind others that are given backwards, past marks of a higher class. -/
def insertMark (c : Char) : List Char → List Char
  | [] => [c]
  | d :: rest =>
    if combiningClass c ≠ 0 && combiningClass c < combiningClass d then d :: insertMark c rest
    else c :: d :: rest

/-- Marks in canonical order. -/
def order (s : List Char) : List Char :=
  (s.foldl (fun before c => insertMark c before) []).reverse

/-- The syllable of two jamos, or of a syllable without a final and a final. -/
def composeHangul? (first second : Char) : Option Char :=
  let a := first.toNat
  let b := second.toNat
  if 0x1100 ≤ a && a < 0x1113 && 0x1161 ≤ b && b < 0x1176 then
    some (Char.ofNat (firstSyllable + ((a - 0x1100) * vowels + (b - 0x1161)) * finals))
  else if firstSyllable ≤ a && a < firstSyllable + syllables && (a - firstSyllable) % finals = 0 &&
      0x11A7 < b && b < 0x11A7 + finals then
    some (Char.ofNat (a + (b - 0x11A7)))
  else none

/-- The composite of two characters. -/
def compose? (first second : Char) : Option Char :=
  (composeHangul? first second).or <|
    (composites.find? fun row => row.payload = [first.toNat, second.toNat]).map fun row =>
      Char.ofNat row.start

/-- Composition behind a starter: `marks` stand behind it, given backwards, and `before` in front of
it. -/
def composeFrom (before : List Char) (starter : Char) (marks : List Char) : List Char → List Char
  | [] => (marks ++ starter :: before).reverse
  | c :: rest =>
    let blocked := marks.head?.any fun mark => combiningClass c ≤ combiningClass mark
    match if blocked then none else compose? starter c with
    | some composite => composeFrom before composite marks rest
    | none =>
      if combiningClass c = 0 then composeFrom (marks ++ starter :: before) c [] rest
      else composeFrom before starter (c :: marks) rest

/-- Composition of a text in canonical order. -/
def compose (s : List Char) : List Char :=
  match s.dropWhile (combiningClass · ≠ 0) with
  | [] => s
  | starter :: rest => composeFrom (s.takeWhile (combiningClass · ≠ 0)).reverse starter [] rest

/-- The normal form C of a text. -/
def normalize (s : List Char) : List Char :=
  compose (order (s.flatMap (decompose maxDepth)))

end QueryBridge.Unicode.Normal
