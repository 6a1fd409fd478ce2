import QueryBridge.Unicode.Table

/-!
# Punycode

Labels with characters beyond ASCII are written as their ASCII characters, a
hyphen, and the insertions of the others in ascending order. An insertion is a
number in a variable-length notation of base 36 whose thresholds adapt.
-/

set_option autoImplicit false

namespace QueryBridge.Url.Punycode

/-- The base of the notation. -/
def base : Nat := 36

/-- The threshold of the digit at a position that counts in steps of the base. -/
def threshold (position bias : Nat) : Nat :=
  if position ≤ bias then 1 else min (position - bias) 26

/-- Brings a distance under the limit of adaptation in as many divisions as given. -/
def shrink : Nat → Nat → Nat → Nat × Nat
  | 0, steps, delta => (steps, delta)
  | rounds + 1, steps, delta =>
    if 455 < delta then shrink rounds (steps + base) (delta / 35) else (steps, delta)

/-- The bias behind an insertion at a distance, `count` characters being in place. -/
def adapt (delta count : Nat) (first : Bool) : Nat :=
  let scaled := if first then delta / 700 else delta / 2
  let (steps, rest) := shrink 64 0 (scaled + scaled / count)
  steps + 36 * rest / (rest + 38)

/-- The value of a digit. -/
def digitValue? (c : Char) : Option Nat :=
  if c.isLower then some (c.toNat - 'a'.toNat)
  else if c.isUpper then some (c.toNat - 'A'.toNat)
  else if c.isDigit then some (c.toNat - '0'.toNat + 26)
  else none

/-- The digit of a value. -/
def digitChar (n : Nat) : Char :=
  if n < 26 then Char.ofNat ('a'.toNat + n) else Char.ofNat ('0'.toNat + (n - 26))

/-- A number and the text behind it: the digits from a position on add to `value` with a weight. -/
def readNumber (bias : Nat) (value weight position : Nat) :
    List Char → Option (Nat × List Char)
  | [] => none
  | c :: rest =>
    (digitValue? c).bind fun digit =>
      let value := value + digit * weight
      let limit := threshold position bias
      if digit < limit then some (value, rest)
      else readNumber bias value (weight * (base - limit)) (position + base) rest

/-- What is known while insertions are read: the characters in place, the code point and the place
of the last insertion, and the bias. -/
structure State where
  chars : List Char
  code : Nat
  place : Nat
  bias : Nat

/-- The state behind an insertion, unless its character is none. -/
def State.insert? (state : State) (delta : Nat) : Option State :=
  let count := state.chars.length + 1
  let total := state.place + delta
  let code := state.code + total / count
  let place := total % count
  if code.isValidChar then
    some
      { state with
        chars := state.chars.take place ++ Char.ofNat code :: state.chars.drop place
        code := code
        place := place + 1 }
  else none

/-- The characters behind all insertions, of which there are no more than rounds. -/
def readInsertions : Nat → Bool → State → List Char → Option (List Char)
  | _, _, state, [] => some state.chars
  | 0, _, _, _ => none
  | rounds + 1, first, state, s =>
    (readNumber state.bias 0 1 base s).bind fun (delta, rest) =>
      (state.insert? delta).bind fun next =>
        let bias := adapt delta next.chars.length first
        readInsertions rounds false { next with bias := bias } rest

/-- The label that an encoded text stands for. -/
def decode (s : List Char) : Option (List Char) :=
  let behindHyphen := (s.reverse.takeWhile (· ≠ '-')).reverse
  let hasHyphen := s.any (· = '-')
  let basic := if hasHyphen then s.take (s.length - behindHyphen.length - 1) else []
  let encoded := if hasHyphen then behindHyphen else s
  if basic.all (·.toNat < 128) then readInsertions encoded.length true ⟨basic, 128, 0, 72⟩ encoded
  else none

/-- The digits of a number, of which there are no more than rounds. -/
def writeNumber (bias : Nat) : Nat → Nat → Nat → List Char
  | 0, _, _ => []
  | rounds + 1, position, value =>
    let limit := threshold position bias
    if value < limit then [digitChar value]
    else
      digitChar (limit + (value - limit) % (base - limit)) ::
        writeNumber bias rounds (position + base) ((value - limit) / (base - limit))

/-- What is known while insertions are written: the distance since the last one, the number of
characters in place, the bias, and the text so far. -/
structure Writing where
  delta : Nat
  count : Nat
  bias : Nat
  first : Bool
  text : List Char

/-- Passes a character of the label while the insertions of a code point are written. -/
def Writing.pass (code : Nat) (writing : Writing) (c : Char) : Writing :=
  if c.toNat < code then { writing with delta := writing.delta + 1 }
  else if c.toNat = code then
    { delta := 0
      count := writing.count + 1
      bias := adapt writing.delta (writing.count + 1) writing.first
      first := false
      text := writing.text ++ writeNumber writing.bias 64 base writing.delta }
  else writing

/-- Writes the insertions of code points, given in ascending order, behind those below `next`. -/
def writeInsertions (label : List Char) : Nat → Writing → List Nat → Writing
  | _, writing, [] => writing
  | next, writing, code :: rest =>
    let start := { writing with delta := writing.delta + (code - next) * (writing.count + 1) }
    let passed := label.foldl (Writing.pass code) start
    writeInsertions label (code + 1) { passed with delta := passed.delta + 1 } rest

/-- The encoded text of a label. -/
def encode (label : List Char) : List Char :=
  let basic := label.filter (·.toNat < 128)
  let codes := ((label.map Char.toNat).filter (128 ≤ ·)).mergeSort.eraseDups
  let start := if basic.isEmpty then [] else basic ++ ['-']
  (writeInsertions label 128 ⟨0, basic.length, 72, true, start⟩ codes).text

end QueryBridge.Url.Punycode
