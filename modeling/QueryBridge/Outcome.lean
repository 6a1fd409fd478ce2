import QueryBridge.Direction

/-!
# Outcomes

One attempt to convert a query ends in an outcome. A message of the service itself
is a success; only a failure to get a usable reply is a failure.
-/

set_option autoImplicit false

namespace QueryBridge

/-- The result of one finished attempt. -/
inductive Outcome where
  | success (text : String)
  | failure (message : String)
  deriving DecidableEq, Repr

namespace Outcome

/-- The text to show. -/
def text : Outcome → String
  | .success text => text
  | .failure message => message

/-- Whether no usable reply was had. -/
def isFailure : Outcome → Bool
  | .success _ => false
  | .failure _ => true

end Outcome

/-- Why no usable reply was had from the service. -/
inductive TransportError where
  /-- The time for the request ran out. -/
  | timeout (url : String)
  /-- The exchange with the service broke down. -/
  | unreachable (url reason : String)
  /-- The body of the reply is no JSON object. -/
  | malformedResponse (status : Nat) (detail : String)
  /-- The reply has neither the field of the direction nor an error field. -/
  | missingFields (expected : String) (status : Nat)
  deriving DecidableEq, Repr

namespace TransportError

/-- What a transport error says. -/
def message : TransportError → String
  | .timeout url => "request to " ++ url ++ " timed out"
  | .unreachable url reason =>
    "failed to reach translation service at " ++ url ++ ": " ++ reason
  | .malformedResponse status detail =>
    "unreadable response from translation service (HTTP " ++ toString status ++ "): " ++ detail
  | .missingFields expected status =>
    "response contained neither '" ++ expected ++ "' nor 'error' (HTTP " ++ toString status ++ ")"

/-- A transport error as an outcome. -/
def outcome (error : TransportError) : Outcome :=
  .failure ("Error: " ++ error.message)

end TransportError

/-- The outcome of an attempt that gave a text or a transport error. -/
def Outcome.ofReply : Except TransportError String → Outcome
  | .ok text => .success text
  | .error error => error.outcome

end QueryBridge
