import QueryBridge.Text.Space
import QueryBridge.Outcome
import QueryBridge.History

/-!
# The session

A session holds what the user sees, the history, the requests in flight and the
calls that the service has received. Its operations are the only ways to change it.
A completion names the direction of the request that it answers, because a
direction has at most one request in flight.

To submit is not yet to call the service. A request waits in flight until whoever
owns the session polls it, and the service is called at the first poll. Polls reach
the requests in the order of submission, and no reply comes before its request has
been reached.

To wait for a reply is to poll until one is there: any number of polls that find
none, and then the completion. Where the last poll comes to requests that were
submitted meanwhile before it comes to the reply, it is a poll of its own in front
of the completion.
-/

set_option autoImplicit false

namespace QueryBridge

/-- A query on its way to the service, as it was when it was submitted. -/
structure Request where
  direction : Direction
  text : String
  deriving DecidableEq, Repr

/-- What the user sees of a session. -/
structure SessionState where
  direction : Direction := .sqlToMongo
  inputs : PerDirection String := .both ""
  outcome : Option Outcome := none
  busy : PerDirection Bool := .both false
  historyVisible : Bool := false
  deriving DecidableEq, Repr

namespace SessionState

/-- The input buffer of a direction. -/
def input (state : SessionState) (d : Direction) : String :=
  state.inputs.get d

/-- The input buffer of the selected direction. -/
def activeInput (state : SessionState) : String :=
  state.input state.direction

/-- Whether a request of a direction is in flight. -/
def isBusy (state : SessionState) (d : Direction) : Bool :=
  state.busy.get d

/-- Whether any request is in flight. -/
def isAnyBusy (state : SessionState) : Bool :=
  Direction.all.any state.isBusy

/-- Whether the control for submitting is enabled: the selected direction has no request in flight
and its buffer is not blank. -/
def submitEnabled (state : SessionState) : Bool :=
  !state.isBusy state.direction && !Text.isBlank state.activeInput.toList

end SessionState

/-- A session: its visible state, the history, the requests in flight, those of them that no poll
has reached yet, and all calls that the service has received. All requests stand in the order of
submission. -/
structure Session where
  state : SessionState := {}
  history : History := {}
  inFlight : List Request := []
  unsent : List Request := []
  calls : List Request := []
  deriving DecidableEq, Repr

namespace Session

/-- The session at the start. -/
def new : Session := {}

/-- The number of requests in flight. -/
def pendingCount (s : Session) : Nat :=
  s.inFlight.length

/-- Whether a request is in flight. -/
def hasPending (s : Session) : Bool :=
  !s.inFlight.isEmpty

/-- Selects a direction. -/
def setDirection (d : Direction) (s : Session) : Session :=
  { s with state := { s.state with direction := d } }

/-- Replaces the buffer of a direction. -/
def edit (d : Direction) (text : String) (s : Session) : Session :=
  { s with state := { s.state with inputs := s.state.inputs.set d text } }

/-- All requests that were ever accepted: those that the service was called with and those that wait
for their first poll. -/
def submitted (s : Session) : List Request :=
  s.calls ++ s.unsent

/-- Polls the requests in flight: the service is called with each that no poll has reached yet. -/
def poll (s : Session) : Session :=
  { s with unsent := [], calls := s.submitted }

/-- How many requests are polled for the first time until that of a direction has been: it and those
before it, or none if it has been polled already. -/
def reach (d : Direction) (s : Session) : Nat :=
  (s.unsent.findIdx? (·.direction == d)).elim 0 (· + 1)

/-- The session after the buffer of the selected direction was accepted as a request. -/
def send (s : Session) : Session :=
  let d := s.state.direction
  let request : Request := ⟨d, s.state.activeInput⟩
  { s with
    state := { s.state with busy := s.state.busy.set d true }
    inFlight := s.inFlight ++ [request]
    unsent := s.unsent ++ [request] }

/-- Submits the buffer of the selected direction, unless that direction is busy or the buffer is
blank. The flag says whether it was submitted. -/
def submit (s : Session) : Bool × Session :=
  let d := s.state.direction
  if s.state.isBusy d then (false, s)
  else if Text.isBlank s.state.activeInput.toList then (false, s)
  else (true, s.send)

/-- The request of a direction that is in flight. -/
def pending? (d : Direction) (s : Session) : Option Request :=
  s.inFlight.find? (·.direction == d)

/-- The entry that a completed request leaves in the history. -/
def entryOf (request : Request) (outcome : Outcome) (now : Instant) : HistoryEntry :=
  ⟨request.direction, request.text, outcome.text, now⟩

/-- Applies the outcome of a request that was in flight. There is none before the request has been
polled, and with it all that stand before it. -/
def applyOutcome (request : Request) (outcome : Outcome) (now : Instant) (s : Session) : Session :=
  let reached := s.reach request.direction
  { state := { s.state with
      busy := s.state.busy.set request.direction false
      outcome := some outcome }
    history := s.history.append (entryOf request outcome now)
    inFlight := s.inFlight.eraseP (·.direction == request.direction)
    unsent := s.unsent.drop reached
    calls := s.calls ++ s.unsent.take reached }

/-- Completes the request of a direction with an outcome. Gives the entry recorded for it and the
session, or nothing where no request of that direction is in flight. -/
def complete? (d : Direction) (outcome : Outcome) (now : Instant) (s : Session) :
    Option (HistoryEntry × Session) :=
  (s.pending? d).map fun request =>
    (entryOf request outcome now, s.applyOutcome request outcome now)

/-- Shows the history panel or hides it. -/
def toggleHistory (s : Session) : Session :=
  { s with state := { s.state with historyVisible := !s.state.historyVisible } }

/-- Empties the history. -/
def clearHistory (s : Session) : Session :=
  { s with history := s.history.clear }

/-- Restores a past attempt: selects its direction, puts its input into the buffer, shows its output
as a success and closes the history panel. -/
def load (entry : HistoryEntry) (s : Session) : Session :=
  { s with
    state := { s.state with
      direction := entry.direction
      inputs := s.state.inputs.set entry.direction entry.input
      outcome := some (.success entry.output)
      historyVisible := false } }

/-- A change to a session: an operation of the user, the arrival of a reply, or a poll that finds no
reply. -/
inductive Op where
  | setDirection (d : Direction)
  | edit (d : Direction) (text : String)
  | submit
  | poll
  | complete (d : Direction) (outcome : Outcome) (now : Instant)
  | toggleHistory
  | clearHistory
  | load (entry : HistoryEntry)
  deriving DecidableEq, Repr

/-- One change. A reply that no request waits for changes nothing. -/
def step (s : Session) : Op → Session
  | .setDirection d => s.setDirection d
  | .edit d text => s.edit d text
  | .submit => s.submit.2
  | .poll => s.poll
  | .complete d outcome now =>
    match s.complete? d outcome now with
    | some (_, after) => after
    | none => s
  | .toggleHistory => s.toggleHistory
  | .clearHistory => s.clearHistory
  | .load entry => s.load entry

/-- The session after a list of changes, the first one first. -/
def run (s : Session) (ops : List Op) : Session :=
  ops.foldl step s

/-- A session reached from the start. -/
def Reachable (s : Session) : Prop :=
  ∃ ops, s = new.run ops

end Session

end QueryBridge
