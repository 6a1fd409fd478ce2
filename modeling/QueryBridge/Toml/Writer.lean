import QueryBridge.Text.Hexadecimal

/-!
# Writing TOML strings

A string is written in the plainest of four forms that holds it: in quotation marks
without escapes, in apostrophes, in three quotation marks without escapes, in three
apostrophes. If none does, it has escapes, in three quotation marks if it has a line
feed. The long forms begin with a line feed of their own if the text has one.
-/

set_option autoImplicit false

namespace QueryBridge.Toml

/-- The length of the longest run of a character, of which `run` stand in front. -/
def longestRunFrom (mark : Char) (run best : Nat) : List Char → Nat
  | [] => best
  | c :: rest =>
    if c = mark then longestRunFrom mark (run + 1) (max best (run + 1)) rest
    else longestRunFrom mark 0 best rest

/-- The length of the longest run of a character. -/
def longestRun (mark : Char) (s : List Char) : Nat :=
  longestRunFrom mark 0 0 s

/-- A control character that every form must escape. -/
def needsCode (c : Char) : Bool :=
  (c.toNat < 0x20 || c = '\x7f') && c ≠ '\t' && c ≠ '\n'

/-- The forms of a string. -/
inductive Form where
  | basic | literal | longBasic | longLiteral
  deriving DecidableEq, Repr

/-- The form in which a string is written. -/
def formOf (s : List Char) : Form :=
  let codes := s.any needsCode
  let newline := s.contains '\n'
  let backslash := s.contains '\\'
  let quotes := longestRun '\x22' s
  let apostrophes := longestRun '\x27' s
  if !codes && !backslash && quotes = 0 && !newline then .basic
  else if !codes && apostrophes = 0 && !newline then .literal
  else if !codes && !backslash && quotes ≤ 2 then .longBasic
  else if !codes && apostrophes ≤ 2 then .longLiteral
  else if newline then .longBasic
  else .basic

/-- A character between quotation marks that is none of them itself. -/
def escapeChar (long : Bool) (c : Char) : List Char :=
  match c with
  | '\x08' => ['\\', 'b']
  | '\t' => ['\\', 't']
  | '\n' => if long then ['\n'] else ['\\', 'n']
  | '\x0c' => ['\\', 'f']
  | '\r' => ['\\', 'r']
  | '\\' => ['\\', '\\']
  | c =>
    if c.toNat < 0x20 || c = '\x7f' then
      ['\\', 'u', '0', '0', Text.hexUpper (c.toNat / 16), Text.hexUpper (c.toNat % 16)]
    else [c]

/-- A text between quotation marks, behind `run` quotation marks that stand unescaped. No more than
two may stand together in the long form, and none in the other. -/
def escapeFrom (long : Bool) (run : Nat) : List Char → List Char
  | [] => []
  | c :: rest =>
    if c = '\x22' then
      if run < (if long then 2 else 0) then '\x22' :: escapeFrom long (run + 1) rest
      else '\\' :: '\x22' :: escapeFrom long 0 rest
    else escapeChar long c ++ escapeFrom long 0 rest

/-- Three marks around a text, with a line feed in front of it if it has any. -/
def longMarks (mark : Char) (s body : List Char) : List Char :=
  [mark, mark, mark] ++ (if s.contains '\n' then ['\n'] else []) ++ body ++ [mark, mark, mark]

/-- A string in a form. -/
def writeIn (form : Form) (s : List Char) : List Char :=
  match form with
  | .basic => '\x22' :: escapeFrom false 0 s ++ ['\x22']
  | .literal => '\x27' :: s ++ ['\x27']
  | .longBasic => longMarks '\x22' s (escapeFrom true 0 s)
  | .longLiteral => longMarks '\x27' s s

/-- A string. -/
def writeString (s : List Char) : List Char :=
  writeIn (formOf s) s

end QueryBridge.Toml
