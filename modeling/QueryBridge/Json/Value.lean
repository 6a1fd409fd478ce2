/-!
# JSON values

A value keeps the literal of a number and the members of an object as they were
written; looking a member up takes the last one of that name.
-/

set_option autoImplicit false

namespace QueryBridge

/-- A JSON value. -/
inductive Json where
  | null
  | bool (value : Bool)
  | number (literal : String)
  | string (text : String)
  | array (items : List Json)
  | object (members : List (String × Json))

namespace Json

/-- The member of that name which was written last. -/
def lastMember? (name : String) (members : List (String × Json)) : Option Json :=
  members.reverse.lookup name

/-- The text of a string, and nothing for any other value. -/
def text? : Json → Option String
  | .string text => some text
  | _ => none

end Json

end QueryBridge
