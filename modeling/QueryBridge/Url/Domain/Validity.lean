import QueryBridge.Unicode.Normal
import QueryBridge.Unicode.Mark
import QueryBridge.Unicode.BidiClass
import QueryBridge.Unicode.JoiningType

/-!
# Labels of domain names

A label may not begin with a combining mark, may hold a joiner only where it joins,
and in a domain name with letters that are written from right to left every label
obeys the bidirectional rule.
-/

set_option autoImplicit false

namespace QueryBridge.Url.Domain

open Unicode (Table)

/-- Which characters are combining marks. -/
def marks : Table := Table.ofPieces Unicode.Mark.rows

/-- The bidirectional classes. -/
def bidiClasses : Table := Table.ofPieces Unicode.BidiClass.rows

/-- The joining types. -/
def joiningTypes : Table := Table.ofPieces Unicode.JoiningType.rows

/-- A combining mark. -/
def isMark (c : Char) : Bool :=
  marks.kind c = 'M'

/-- The combining class of characters that make a conjunct of what follows. -/
def viramaClass : Nat := 9

/-- Whether a joiner may stand between the characters before, given backwards, and those behind. -/
def joinerAllowed (joiner : Char) (before behind : List Char) : Bool :=
  let isTransparent := fun c => joiningTypes.kind c = 'T'
  let joins := fun (kinds : List Char) (s : List Char) =>
    (s.dropWhile isTransparent).head?.any fun c => kinds.contains (joiningTypes.kind c)
  before.head?.any (fun c => Unicode.Normal.combiningClass c = viramaClass) ||
    (joiner = '\u200C' && joins ['L', 'D'] before && joins ['R', 'D'] behind)

/-- Whether every joiner behind the characters before, given backwards, may stand where it is. -/
def joinersAllowed (before : List Char) : List Char → Bool
  | [] => true
  | c :: rest =>
    (if c = '\u200C' || c = '\u200D' then joinerAllowed c before rest else true) &&
      joinersAllowed (c :: before) rest

/-- Whether a character is written from right to left. -/
def isRightToLeft (c : Char) : Bool :=
  ['R', 'A', 'N'].contains (bidiClasses.kind c)

/-- The bidirectional rule for one label. -/
def obeysBidi (label : List Char) : Bool :=
  let kinds := label.map bidiClasses.kind
  let last := (kinds.reverse.dropWhile (· = 'M')).head?
  match kinds with
  | [] => true
  | 'L' :: _ =>
    kinds.all (['L', 'E', 'S', 'C', 'T', 'O', 'B', 'M'].contains ·) &&
      last.all (['L', 'E'].contains ·)
  | first :: _ =>
    (first = 'R' || first = 'A') &&
      kinds.all (['R', 'A', 'N', 'E', 'S', 'C', 'T', 'O', 'B', 'M'].contains ·) &&
      last.all (['R', 'A', 'E', 'N'].contains ·) &&
      !(kinds.contains 'E' && kinds.contains 'N')

/-- Whether the labels of a domain name obey the bidirectional rule, if any of them must. -/
def labelsObeyBidi (labels : List (List Char)) : Bool :=
  !labels.any (·.any isRightToLeft) || labels.all obeysBidi

end QueryBridge.Url.Domain
