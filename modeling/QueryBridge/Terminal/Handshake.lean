import QueryBridge.Terminal.Interactive

/-!
# The loop and the reader of prompts

Prompts are shown by a reader that runs beside the loop. The loop sends it messages and the reader
sends answers back; both wait in queues until the other side takes them. The reader shows one prompt
at a time, ends with the first prompt that fails, and may break down at any time. A loop that finds
no reader for its message has ended, with the prompt still recorded as shown.
-/

set_option autoImplicit false

namespace QueryBridge.Terminal

/-- The side that shows the prompts. -/
inductive Reader where
  | idle
  | showing (message : String)
  | ended
  deriving DecidableEq, Repr

/-- The prompts that a reader shows. -/
def Reader.shown : Reader → List String
  | .showing message => [message]
  | .idle | .ended => []

/-- The loop and the reader, with what is under way between them. -/
structure Handshake where
  loop : Repl.Loop
  reader : Reader
  /-- The messages that the reader has not taken yet. -/
  prompts : List String := []
  /-- The answers that the loop has not taken yet. -/
  answers : List Answer := []
  /-- The number of answers that the loop has taken. -/
  heard : Nat := 0
  deriving Repr

/-- What either side does next. -/
inductive Turn where
  /-- The reader takes a message and shows it. -/
  | take
  /-- The prompt that is shown returns. -/
  | give (answer : Answer)
  /-- The reader breaks down. -/
  | breakDown
  /-- The reader finds that no message can come any more. -/
  | dismiss
  /-- The loop takes an answer, or finds that none can come any more. -/
  | hear
  /-- The loop polls the requests in flight, and no reply is there. -/
  | poll
  /-- A reply of the service arrives. -/
  | arrive (arrival : Repl.Arrival)
  deriving Repr

namespace Handshake

/-- The reader ends, and no one takes the messages that are left. -/
def endReader (both : Handshake) : Handshake :=
  { both with reader := .ended, prompts := [] }

/-- The reader takes a message. -/
def take (both : Handshake) : Handshake :=
  match both.reader, both.prompts with
  | .idle, message :: rest => { both with reader := .showing message, prompts := rest }
  | _, _ => both

/-- The prompt that is shown returns. The reader goes on if the prompt did not fail and the loop
can still take the answer. -/
def give (both : Handshake) (answer : Answer) : Handshake :=
  match both.reader with
  | .idle | .ended => both
  | .showing _ =>
    match both.loop.phase, answer with
    | .broken _, _ => both.endReader
    | _, .ok line => { both with reader := .idle, answers := both.answers ++ [.ok line] }
    | _, .error failure =>
      { both.endReader with answers := both.answers ++ [.error failure] }

/-- The reader ends once the loop is over and all messages are taken. -/
def dismiss (both : Handshake) : Handshake :=
  match both.reader, both.prompts, both.loop.phase with
  | .idle, [], .left | .idle, [], .broken _ => both.endReader
  | _, _, _ => both

/-- The loop goes on. If it asks for another line, the message goes to the reader, and the loop is
over if there is none. -/
def proceed (both : Handshake) (next : Repl.Loop) : Handshake :=
  match next.phase, both.reader with
  | .waiting, .ended => { both with loop := { next with phase := .left, sent := both.loop.sent } }
  | .waiting, _ => { both with loop := next, prompts := both.prompts ++ [next.repl.promptMessage] }
  | _, _ => { both with loop := next }

/-- The loop takes an answer. Where none is left and no reader is there, it finds the queue
closed. -/
def hear (both : Handshake) : Handshake × List Output :=
  match both.loop.phase, both.answers, both.reader with
  | .waiting, answer :: rest, _ =>
    let (next, output) := both.loop.handle (eventOf answer)
    ({ both with answers := rest, heard := both.heard + 1 }.proceed next, output)
  | .waiting, [], .ended =>
    let (next, output) := both.loop.handle .closed
    ({ both with loop := next }, output)
  | _, _, _ => (both, [])

/-- One turn. A turn that cannot be taken changes nothing. -/
def step (both : Handshake) : Turn → Handshake × List Output
  | .take => (both.take, [])
  | .give answer => (both.give answer, [])
  | .breakDown => (both.endReader, [])
  | .dismiss => (both.dismiss, [])
  | .hear => both.hear
  | .poll =>
    let (next, output) := both.loop.step .polled
    ({ both with loop := next }, output)
  | .arrive arrival =>
    let (next, output) := both.loop.step (.received arrival)
    ({ both with loop := next }, output)

/-- Both sides at the start, where the loop asks for the first line. The flag says whether the
reader is there. -/
def start (config : ReplConfig) (present : Bool) : Handshake × List Output :=
  let (loop, output) := Repl.Loop.start config
  let alone : Handshake :=
    { loop := ⟨loop.repl, .left, []⟩, reader := if present then .idle else .ended }
  (alone.proceed loop, output)

/-- Both sides after turns, the first one first. -/
def play (both : Handshake) (turns : List Turn) : Handshake :=
  turns.foldl (fun now turn => (now.step turn).1) both

end Handshake

end QueryBridge.Terminal
