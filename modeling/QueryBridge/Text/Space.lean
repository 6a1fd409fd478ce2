/-!
# White space, pieces and lines

White space is the Unicode property White_Space. Trimming, blankness, words, the
pieces between separators and the lines of a text are stated on lists of characters,
so that each of them is a statement about `List.dropWhile`, `List.all` and plain
recursion.
-/

set_option autoImplicit false

namespace QueryBridge.Text

/-- The code points with the Unicode property White_Space. -/
def isSpace (c : Char) : Bool :=
  let n := c.toNat
  (9 ≤ n && n ≤ 13) || n == 0x20 || n == 0x85 || n == 0xA0 || n == 0x1680 ||
    (0x2000 ≤ n && n ≤ 0x200A) || n == 0x2028 || n == 0x2029 || n == 0x202F ||
    n == 0x205F || n == 0x3000

/-- The text without the white space in front. -/
def trimStart (s : List Char) : List Char :=
  s.dropWhile isSpace

/-- The text without the white space behind. -/
def trimEnd (s : List Char) : List Char :=
  (s.reverse.dropWhile isSpace).reverse

/-- The text without the white space on either side. -/
def trim (s : List Char) : List Char :=
  trimEnd (trimStart s)

/-- A blank text holds white space only. -/
def isBlank (s : List Char) : Bool :=
  s.all isSpace

theorem all_dropWhile (p : Char → Bool) (s : List Char) :
    (s.dropWhile p).all p = (s.dropWhile p).isEmpty := by
  induction s with
  | nil => rfl
  | cons c rest ih => cases h : p c <;> simp [h, ih]

/-- Trimming and blankness mean the same white space: what is left of a text is blank only if
nothing is left. -/
theorem isBlank_trim (s : List Char) : isBlank (trim s) = (trim s).isEmpty := by
  rw [isBlank, trim, trimEnd, List.all_reverse, all_dropWhile, List.isEmpty_reverse]

/-- The first maximal run of characters that are no white space. -/
def firstWord (s : List Char) : List Char :=
  (trimStart s).takeWhile (!isSpace ·)

/-- The pieces of a text between separators, given the current piece backwards. -/
def splitFrom (isSeparator : Char → Bool) (piece : List Char) : List Char → List (List Char)
  | [] => [piece.reverse]
  | c :: rest =>
    if isSeparator c then piece.reverse :: splitFrom isSeparator [] rest
    else splitFrom isSeparator (c :: piece) rest

/-- The pieces of a text between separators. -/
def splitAll (isSeparator : Char → Bool) (s : List Char) : List (List Char) :=
  splitFrom isSeparator [] s

/-- The text before the first white space and the text behind that one character. -/
def splitAtSpace (s : List Char) : List Char × List Char :=
  (s.takeWhile (!isSpace ·), (s.dropWhile (!isSpace ·)).tail)

/-- A finished line, given backwards: one carriage return in front of the line feed is dropped. -/
def closeLine : List Char → List Char
  | '\r' :: line => line.reverse
  | line => line.reverse

/-- The lines of a text whose current line, given backwards, has begun already. -/
def linesFrom (line : List Char) : List Char → List (List Char)
  | [] => if line.isEmpty then [] else [line.reverse]
  | c :: rest =>
    if c = '\n' then closeLine line :: linesFrom [] rest else linesFrom (c :: line) rest

/-- The lines of a text: each line feed ends one, with a carriage return right before it, and an
empty last line is no line. -/
def lines (s : List Char) : List (List Char) :=
  linesFrom [] s

/-- The lines of a text, as strings. -/
def linesOf (s : String) : List String :=
  (lines s.toList).map String.ofList

end QueryBridge.Text
