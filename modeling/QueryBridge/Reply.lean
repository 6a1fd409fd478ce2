import QueryBridge.Outcome
import QueryBridge.Json.Reader

/-!
# Replies of the service

A reply is a JSON object with the converted query, with an error message, or with
both. A non-empty conversion wins over the message, and the message wins over an
empty conversion. Fields that are no strings count as absent.
-/

set_option autoImplicit false

namespace QueryBridge.Reply

/-- The field that carries the message of the service. -/
def errorField : String := "error"

/-- The detail of a reply whose body is JSON and no object. -/
def notAnObject : String := "expected a JSON object"

/-- The text of a string field. -/
def stringField? (members : List (String × Json)) (name : String) : Option String :=
  (Json.lastMember? name members).bind Json.text?

/-- The text to show for a conversion and a message, each of which may be absent. -/
def choose? (converted message : Option String) : Option String :=
  match converted, message with
  | some text, message => if text.isEmpty then some (message.getD text) else some text
  | none, message => message

/-- The text to show for the members of a reply. -/
def ofMembers (d : Direction) (status : Nat) (members : List (String × Json)) :
    Except TransportError String :=
  match choose? (stringField? members d.responseField) (stringField? members errorField) with
  | some text => .ok text
  | none => .error (.missingFields d.responseField status)

/-- The text to show for a reply in direction `d`. -/
def read (d : Direction) (status : Nat) (body : List Char) : Except TransportError String :=
  match Json.parse body with
  | .error fault => .error (.malformedResponse status (fault.message body))
  | .ok (.object members) => ofMembers d status members
  | .ok _ => .error (.malformedResponse status notAnObject)

end QueryBridge.Reply
