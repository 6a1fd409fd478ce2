/-!
# Reports

A call that fails reports a message and the messages of its causes, the outermost
one first.
-/

set_option autoImplicit false

namespace QueryBridge

/-- A message and its causes. -/
structure Report where
  message : String
  causes : List String := []
  deriving DecidableEq, Repr

namespace Report

/-- A report whose causes are counted. -/
def numbered (index : Nat) : List String → String
  | [] => ""
  | cause :: rest => "\n    " ++ toString index ++ ": " ++ cause ++ numbered (index + 1) rest

/-- The text of a report that ends the program. -/
def render (report : Report) : String :=
  match report.causes with
  | [] => "Error: " ++ report.message ++ "\n"
  | [cause] => "Error: " ++ report.message ++ "\n\nCaused by:\n    " ++ cause ++ "\n"
  | causes => "Error: " ++ report.message ++ "\n\nCaused by:" ++ numbered 0 causes ++ "\n"

end Report

/-- What a fallible call gives. -/
abbrev Fallible (α : Type) := Except Report α

end QueryBridge
