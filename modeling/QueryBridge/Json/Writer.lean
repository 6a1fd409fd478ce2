import QueryBridge.Text.Hexadecimal

/-!
# Writing JSON

A request is an object with one string field, written without any white space.
Only quotation marks, backslashes and control characters are escaped.
-/

set_option autoImplicit false

namespace QueryBridge.Json

/-- A character inside a quoted string. -/
def quoteChar (c : Char) : List Char :=
  match c with
  | '\x22' => ['\\', '\x22']
  | '\\' => ['\\', '\\']
  | '\x08' => ['\\', 'b']
  | '\x0c' => ['\\', 'f']
  | '\n' => ['\\', 'n']
  | '\r' => ['\\', 'r']
  | '\t' => ['\\', 't']
  | c =>
    if c.toNat < 0x20 then
      ['\\', 'u', '0', '0', Text.hexLower (c.toNat / 16), Text.hexLower (c.toNat % 16)]
    else [c]

/-- A quoted string. -/
def quote (s : List Char) : List Char :=
  '\x22' :: s.flatMap quoteChar ++ ['\x22']

/-- An object with one string field. -/
def quoteField (name value : List Char) : List Char :=
  '\x7b' :: quote name ++ ':' :: quote value ++ ['\x7d']

end QueryBridge.Json
