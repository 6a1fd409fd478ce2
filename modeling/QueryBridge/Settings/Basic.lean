import QueryBridge.Endpoint

/-!
# Settings

The settings are the endpoint of the service and the time limit of a request. Each
comes from the command line, else from the settings file, else it is built in, and
independently of the other. Resolving them checks the endpoint first.
-/

set_option autoImplicit false

namespace QueryBridge

/-- Settings of one source, each of which may be absent. The time limit is in seconds. -/
structure Settings where
  endpoint : Option String := none
  timeoutSecs : Option Nat := none
  deriving DecidableEq, Repr

/-- Settings that a request can use. -/
structure Connection where
  endpoint : String
  timeoutSecs : Nat
  deriving DecidableEq, Repr

namespace Settings

/-- The endpoint that is built in. -/
def defaultEndpoint : String := "http://localhost:5000"

/-- The time limit that is built in. -/
def defaultTimeout : Nat := 30

/-- The endpoint of the first source that has one. -/
def chosenEndpoint (commandLine file : Settings) : String :=
  (commandLine.endpoint.or file.endpoint).getD defaultEndpoint

/-- The time limit of the first source that has one. -/
def chosenTimeout (commandLine file : Settings) : Nat :=
  (commandLine.timeoutSecs.or file.timeoutSecs).getD defaultTimeout

/-- The complaint about a time limit of zero. -/
def zeroTimeout : String :=
  "Invalid timeout: 0\n\nThe request timeout must be at least 1 second."

/-- The settings that hold for this run. -/
def resolve (commandLine file : Settings) : Fallible Connection :=
  let endpoint := chosenEndpoint commandLine file
  let timeout := chosenTimeout commandLine file
  match Endpoint.validate endpoint with
  | .error report => .error report
  | .ok () => if timeout = 0 then .error ⟨zeroTimeout, []⟩ else .ok ⟨endpoint, timeout⟩

/-- A time limit as a user types it. -/
def parseTimeout (s : String) : Fallible Nat :=
  match Text.parseWord? (Text.trim s.toList) with
  | none => .error ⟨"Timeout must be a whole number of seconds", []⟩
  | some secs => if secs = 0 then .error ⟨"Timeout must be at least 1 second", []⟩ else .ok secs

end Settings

end QueryBridge
