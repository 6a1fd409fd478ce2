import QueryBridge.Terminal.Keyboard
import QueryBridge.Repl.Loop
import QueryBridge.Service.Exchange

/-!
# An interactive session at a terminal

The loop of the session meets a user who types and a service that answers. Requests
that fail at once, or are answered at once, are shown before the next line is typed;
slow answers come while the user waits.
-/

set_option autoImplicit false

namespace QueryBridge.Terminal

/-- How a request is answered. -/
structure Answering where
  outcome : Outcome
  /-- Whether the answer takes its time. -/
  slow : Bool
  deriving DecidableEq, Repr

/-- Whether an answer of the network takes its time. -/
def isSlow (network : Service.Network) : Bool :=
  network.isRead &&
    match network.behaviour with
    | .hang => true
    | .reply response => 0 < response.delayMillis
    | .refuse | .close => false

/-- The answer to a request that meets a network. -/
def answeringOf (client : Service.Client) (network : Service.Network) (request : Request) :
    Answering :=
  ⟨(client.exchange network request).outcome, isSlow network⟩

/-- What the answer of a prompt is to the loop. -/
def eventOf : Answer → Repl.Event
  | .ok line => .answered line
  | .error failure => .failed failure

/-- An interactive session with the line that is being typed. -/
structure Desk where
  loop : Repl.Loop
  typed : Typed := []
  deriving DecidableEq, Repr

namespace Desk

/-- The session of a desk. -/
def session (desk : Desk) : Session :=
  desk.loop.repl.console.session

/-- The place of a request in flight among all calls: it is the last one of its direction. -/
def callNumber (desk : Desk) (request : Request) : Nat :=
  desk.session.calls.length - 1 -
    desk.session.calls.reverse.findIdx (·.direction == request.direction)

/-- The arrivals of answers to the requests in flight, without the slow ones unless they are asked
for. -/
def arrivals (answer : Nat → Request → Answering) (now : Instant) (slow : Bool) (desk : Desk) :
    List Repl.Arrival :=
  desk.session.inFlight.filterMap fun request =>
    let answering := answer (desk.callNumber request) request
    if answering.slow && !slow then none
    else some ⟨request.direction, answering.outcome, now⟩

/-- Lets answers arrive. -/
def receive (answer : Nat → Request → Answering) (now : Instant) (slow : Bool) (desk : Desk) :
    Desk × List Output :=
  let (loop, output) :=
    desk.loop.run ((desk.arrivals answer now slow).map Repl.Event.received)
  ({ desk with loop := loop }, output)

/-- Hands the answer of a prompt to the loop, which polls while it waits for the next one. -/
def handOver (desk : Desk) (answer : Answer) : Desk × List Output :=
  let (loop, output) := desk.loop.run [eventOf answer, .polled]
  (⟨loop, []⟩, output)

/-- One gesture. -/
def step (answer : Nat → Request → Answering) (now : Instant) (desk : Desk) :
    Gesture → Desk × List Output
  | .pause => desk.receive answer now true
  | .key key =>
    match press desk.typed key with
    | (typed, none) => ({ desk with typed := typed }, [])
    | (_, some given) =>
      let (after, first) := desk.handOver given
      let (last, others) := after.receive answer now false
      (last, first ++ others)

/-- Gestures, the first one first, until the loop has ended. -/
def run (answer : Nat → Request → Answering) (now : Instant) (desk : Desk) :
    List Gesture → Desk × List Output
  | [] => (desk, [])
  | gesture :: rest =>
    match desk.loop.phase with
    | .waiting =>
      let (next, first) := desk.step answer now gesture
      let (last, others) := run answer now next rest
      (last, first ++ others)
    | .left | .broken _ => (desk, [])

end Desk

/-- How an interactive session ends. -/
structure Departure where
  result : Fallible Unit
  calls : List Request
  output : List Output
  deriving Repr

/-- The end of an interactive session: a loop that broke off is an error, any other is left. -/
def depart (answer : Nat → Request → Answering) (now : Instant) (desk : Desk)
    (output : List Output) : Departure :=
  match desk.loop.phase with
  | .broken failure => ⟨.error failure.report, desk.session.calls, output⟩
  | .waiting | .left =>
    let (_, last) := desk.loop.repl.leave (desk.arrivals answer now true)
    ⟨.ok (), desk.session.calls, output ++ last⟩

/-- A whole interactive session with a user, or without a terminal, where the first prompt fails. -/
def interact (answer : Nat → Request → Answering) (now : Instant) (config : ReplConfig)
    (user : Option (List Gesture)) : Departure :=
  let (loop, shown) := Repl.Loop.start config
  match user with
  | some gestures =>
    let (desk, output) := Desk.run answer now ⟨loop, []⟩ gestures
    depart answer now desk (shown ++ output)
  | none =>
    let (broken, output) := loop.step (.failed .notTerminal)
    depart answer now ⟨broken, []⟩ (shown ++ output)

end QueryBridge.Terminal
