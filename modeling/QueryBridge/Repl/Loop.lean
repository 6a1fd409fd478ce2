import QueryBridge.Repl.Handle
import QueryBridge.Prompt

/-!
# The loop of an interactive session

The loop shows one prompt at a time. While it waits, it polls the requests in flight; replies may
arrive and are shown above the prompt; an answer is handled with no prompt shown, and a new prompt
goes out only if the session is to go on. Once the loop has ended, requests still in flight are
waited for until the user gives up.
-/

set_option autoImplicit false

namespace QueryBridge

namespace Repl

/-- What the loop waits for. -/
inductive Event where
  /-- The prompt returned a line. -/
  | answered (line : String)
  /-- The prompt failed, which it also does when the user backs out. -/
  | failed (failure : PromptFailure)
  /-- The side that shows the prompts is gone. -/
  | closed
  /-- The requests in flight were polled, and no reply was there. -/
  | polled
  /-- A reply arrived. -/
  | received (arrival : Arrival)
  deriving DecidableEq, Repr

/-- Where the loop stands. -/
inductive Phase where
  /-- A prompt is shown. -/
  | waiting
  /-- The loop has ended. -/
  | left
  /-- The loop has broken off. -/
  | broken (failure : PromptFailure)
  deriving DecidableEq, Repr

/-- The loop: the session, where it stands, and the messages of all prompts so far. -/
structure Loop where
  repl : Repl
  phase : Phase
  sent : List String
  deriving DecidableEq, Repr

/-- The message of the next prompt. -/
def promptMessage (repl : Repl) : String :=
  View.promptMessage repl.state

/-- The session with its prompt shown. -/
def showPrompt (repl : Repl) : Repl :=
  repl.setPrompt (some repl.promptMessage)

namespace Loop

/-- Asks for the next line. -/
def ask (sent : List String) (repl : Repl) : Loop :=
  ⟨repl.showPrompt, .waiting, sent ++ [repl.promptMessage]⟩

/-- The loop at the start, after the header and the first rendering. -/
def start (config : ReplConfig) : Loop × List Output :=
  let (repl, shown) := (Repl.new config).render
  (ask [] repl, .out (Screen.header config) :: shown)

/-- One event while the loop waits. -/
def handle (loop : Loop) : Event → Loop × List Output
  | .answered line =>
    let (goOn, repl, output) := (loop.repl.setPrompt none).handleLine line
    (if goOn then ask loop.sent repl else ⟨repl, .left, loop.sent⟩, output)
  | .failed failure =>
    let repl := loop.repl.setPrompt none
    if failure.isCancelled then ({ loop with repl := repl, phase := .left }, [.out [Line.empty]])
    else ({ loop with repl := repl, phase := .broken failure }, [])
  | .closed => ({ loop with repl := loop.repl.setPrompt none, phase := .left }, [])
  | .polled => ({ loop with repl := loop.repl.poll }, [])
  | .received arrival =>
    let (_, repl, output) := loop.repl.receive arrival
    ({ loop with repl := repl }, output)

/-- One event. A loop that no longer waits takes none. -/
def step (loop : Loop) (event : Event) : Loop × List Output :=
  match loop.phase with
  | .waiting => loop.handle event
  | .left | .broken _ => (loop, [])

/-- The loop after events, the first one first, and all it put out. -/
def run (loop : Loop) : List Event → Loop × List Output
  | [] => (loop, [])
  | event :: rest =>
    let (next, first) := loop.step event
    let (last, others) := run next rest
    (last, first ++ others)

end Loop

/-- Waits for replies that arrive before the user gives up. Polls that find no reply show nothing
and are left out. -/
def await (repl : Repl) : List Arrival → Repl × List Output
  | [] => (repl, [])
  | arrival :: rest =>
    if repl.console.session.hasPending then
      let (_, next, first) := repl.receive arrival
      let (last, others) := await next rest
      (last, first ++ others)
    else (repl, [])

/-- The row that says how many requests are waited for, if any is in flight. -/
def waitingNotice (repl : Repl) : List Output :=
  if repl.console.session.hasPending then
    [.out (Screen.waiting repl.console.session.pendingCount)]
  else []

/-- Lets requests in flight complete. Gives the number of requests given up, the session and the
output. -/
def finishPending (repl : Repl) (arrivals : List Arrival) : Nat × Repl × List Output :=
  let (last, output) := repl.await arrivals
  (last.console.session.pendingCount, last, repl.waitingNotice ++ output)

/-- The farewell, with the number of requests that are still in flight. -/
def goodbye (repl : Repl) : List Output :=
  [.out (Screen.goodbye repl.console.session.pendingCount)]

/-- Leaves the session: no prompt is shown, requests in flight may complete, then the farewell. -/
def leave (repl : Repl) (arrivals : List Arrival) : Repl × List Output :=
  let (_, last, output) := (repl.setPrompt none).finishPending arrivals
  (last, output ++ last.goodbye)

/-- A reply that arrives at any time: above the prompt while the loop waits, and without a prompt
once it has ended. A loop that broke off takes none. -/
def Loop.deliver (loop : Loop) (arrival : Arrival) : Loop × List Output :=
  match loop.phase with
  | .waiting => loop.handle (.received arrival)
  | .left =>
    let (repl, output) := loop.repl.await [arrival]
    ({ loop with repl := repl }, output)
  | .broken _ => (loop, [])

end Repl

end QueryBridge
