import QueryBridge.Command

/-!
# Completing command words

An input that begins with a slash and holds no white space is completed to the
command words that it begins. A suggestion is a word and its description; taking
one keeps the word.
-/

set_option autoImplicit false

namespace QueryBridge.Completion

/-- The suggestion for a row of the command table. -/
def suggestion (row : String × String) : String :=
  row.1 ++ "  " ++ row.2

/-- The rows of the command table that an input begins. -/
def matching (input : String) : List (String × String) :=
  if input.toList.head? ≠ some '/' || input.toList.any Text.isSpace then []
  else commandTable.filter fun row => input.toList.isPrefixOf row.1.toList

/-- The suggestions for an input, in the order of the command table. -/
def suggestions (input : String) : List String :=
  (matching input).map suggestion

/-- The input that a highlighted suggestion stands for: its first word. -/
def accept (highlighted : Option String) : Option String :=
  highlighted.map fun text => String.ofList (Text.firstWord text.toList)

end QueryBridge.Completion
