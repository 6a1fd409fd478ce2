import QueryBridge.Unicode.DomainMapping
import QueryBridge.Url.Domain.Punycode
import QueryBridge.Url.Domain.Validity

/-!
# Domain names in ASCII

A domain name is put into lower case and normal form, its labels are checked, and
labels beyond ASCII are encoded. A name that is ASCII from the start and has no
encoded label only goes to lower case.
-/

set_option autoImplicit false

namespace QueryBridge.Url.Domain

/-- How domain names map characters. -/
def mapping : Unicode.Table := Unicode.Table.ofPieces Unicode.DomainMapping.rows

/-- What the row that holds for a character makes of it. -/
def mappedBy? (c : Char) (row : Unicode.Row) : Option (List Char) :=
  let moved := row.payload.headD 0
  match row.kind with
  | 'V' => some [c]
  | 'I' => some []
  | 'M' => some (row.payload.map Char.ofNat)
  | 'U' => some [Char.ofNat (c.toNat + moved)]
  | 'D' => some [Char.ofNat (c.toNat - moved)]
  | 'A' => some [if (c.toNat - row.start) % 2 = 0 then Char.ofNat (c.toNat + 1) else c]
  | _ => none

/-- What becomes of a character: the characters in its place, or nothing if it is not allowed. -/
def mapChar? (c : Char) : Option (List Char) :=
  (mapping.row? c.toNat).bind (mappedBy? c)

/-- The characters in place of those of a text, or nothing if one of them is not allowed. -/
def mapText? : List Char → Option (List Char)
  | [] => some []
  | c :: rest => (mapChar? c).bind fun first => (mapText? rest).map (first ++ ·)

/-- The mark in front of an encoded label. -/
def encodedMark : List Char := ['x', 'n', '-', '-']

/-- The label behind the mark of an encoded one. -/
def encodedPart? (label : List Char) : Option (List Char) :=
  if encodedMark.isPrefixOf (label.map Char.toLower) then some (label.drop 4) else none

/-- ASCII characters that no domain name holds. -/
def isForbidden (c : Char) : Bool :=
  c.toNat < 0x20 || c.toNat = 0x7F ||
    [' ', '#', '%', '/', ':', '<', '>', '?', '@', '[', '\\', ']', '^', '|'].contains c

/-- A label in both forms: as it reads, and in ASCII. -/
structure Label where
  reading : List Char
  ascii : List Char

/-- Whether all characters of a label are kept as they are by the mapping and by normal form. -/
def isSettled (label : List Char) : Bool :=
  label.all (fun c => mapChar? c = some [c]) && Unicode.Normal.normalize label = label

/-- Whether a label may stand in a domain name as it reads. -/
def isValid (label : List Char) : Bool :=
  !label.head?.any isMark && joinersAllowed [] label && (encodedPart? label).isNone

/-- A mapped label in both forms, if it is valid. -/
def label? (label : List Char) : Option Label :=
  match encodedPart? label with
  | none =>
    if !isValid label then none
    else if label.all (·.toNat < 128) then some ⟨label, label⟩
    else some ⟨label, encodedMark ++ Punycode.encode label⟩
  | some encoded =>
    (Punycode.decode encoded).bind fun reading =>
      if reading.any (128 ≤ ·.toNat) && isSettled reading && isValid reading then
        some ⟨reading, label⟩
      else none

/-- All labels in both forms, if they are valid. -/
def labels? : List (List Char) → Option (List Label)
  | [] => some []
  | first :: rest => (label? first).bind fun l => (labels? rest).map (l :: ·)

/-- Labels with dots between them. -/
def joinDots : List (List Char) → List Char
  | [] => []
  | [label] => label
  | label :: rest => label ++ '.' :: joinDots rest

/-- Whether a name needs neither the mapping nor the checks of labels. -/
def isPlain (name : List Char) : Bool :=
  name.all (·.toNat < 128) &&
    (Text.splitAll (· = '.') name).all fun label => (encodedPart? label).isNone

/-- A name in which something has to be mapped or checked, in ASCII. -/
def toAsciiMapped? (name : List Char) : Option (List Char) :=
  (mapText? name).bind fun mapped =>
    (labels? (Text.splitAll (· = '.') (Unicode.Normal.normalize mapped))).bind fun labels =>
      if labelsObeyBidi (labels.map Label.reading) then some (joinDots (labels.map Label.ascii))
      else none

/-- A domain name in ASCII, or nothing if it is none. -/
def toAscii? (name : List Char) : Option (List Char) :=
  (if isPlain name then some (name.map Char.toLower) else toAsciiMapped? name).filter
    fun ascii => !ascii.any isForbidden

end QueryBridge.Url.Domain
