import QueryBridge.Repl.Screen

/-!
# Handling a line

A line becomes an intent, or an answer that leaves the session alone. A query is put
into the buffer of the selected direction and submitted; a submission that is not
possible shows a hint that names the cause.
-/

set_option autoImplicit false

namespace QueryBridge

/-- An interactive session: its settings, the session and the view. -/
structure Repl where
  config : ReplConfig
  console : Console
  deriving DecidableEq, Repr

namespace Repl

/-- The interactive session at the start. -/
def new (config : ReplConfig) : Repl :=
  ⟨config, { session := Session.new.setDirection config.direction }⟩

/-- What the user sees of the session. -/
def state (repl : Repl) : SessionState :=
  repl.console.session.state

/-- Applies an intent. -/
def apply (repl : Repl) (intent : Intent) : Repl × List Output :=
  let (console, _, emissions) := repl.console.dispatch intent
  ({ repl with console := console }, emissions.map .screen)

/-- Shows the session. -/
def render (repl : Repl) : Repl × List Output :=
  let (console, emissions) := repl.console.render
  ({ repl with console := console }, emissions.map .screen)

/-- The hint about a submission that is not possible. -/
def refusal (state : SessionState) : String :=
  if state.isBusy state.direction then
    "Still translating " ++ state.direction.label ++
      "; input kept, use /submit once it finishes"
  else "Nothing to translate, type a query or use /draft"

/-- Submits the buffer of the selected direction, or hints why not. -/
def submit (repl : Repl) : Repl × List Output :=
  if repl.state.submitEnabled then repl.apply .submit
  else (repl, (repl.console.view.hint (refusal repl.state)).map .screen)

/-- Puts a query into the buffer of the selected direction and submits it. -/
def submitText (repl : Repl) (query : String) : Repl × List Output :=
  let (edited, first) := repl.apply (.editInput repl.state.direction query)
  let (after, others) := edited.submit
  (after, first ++ others)

/-- Carries a command out. The flag says whether to go on. -/
def handleCommand (repl : Repl) : Command → Bool × Repl × List Output
  | .direction d => (true, repl.apply (.switchDirection d))
  | .switch => (true, repl.apply (.switchDirection repl.state.direction.toggled))
  | .draft text => (true, repl.apply (.editInput repl.state.direction text))
  | .submit => (true, repl.submit)
  | .history => (true, repl.apply .toggleHistory)
  | .load (some number) => (true, repl.apply (.selectEntry (number - 1)))
  | .load none => (true, repl, [.err (Screen.error "Usage: /load <n>")])
  | .clear => (true, repl.apply .clearHistory)
  | .copy => (true, repl.apply .copyResult)
  | .status => (true, repl, [.out (Screen.status repl.state)])
  | .config => (true, repl, [.out (Screen.config repl.config)])
  | .help => (true, repl, [.out Screen.help])
  | .quit => (false, repl, [])
  | .unknown text => (true, repl, [.err (Screen.error ("Unknown command: /" ++ text))])

/-- Handles what a line means. The flag says whether to go on. -/
def handleInput (repl : Repl) : Input → Bool × Repl × List Output
  | .empty => (true, repl, [])
  | .text query => (true, repl.submitText query)
  | .command command => repl.handleCommand command

/-- Handles a line. The flag says whether to go on. -/
def handleLine (repl : Repl) (line : String) : Bool × Repl × List Output :=
  repl.handleInput (Input.parse line)

/-- Records the prompt that is shown, or that none is. -/
def setPrompt (repl : Repl) (message : Option String) : Repl :=
  { repl with console := { repl.console with view := repl.console.view.setPrompt message } }

/-- Polls the requests in flight. -/
def poll (repl : Repl) : Repl :=
  { repl with console := repl.console.poll }

/-- The reply to a request of a direction, and when it arrives. -/
structure Arrival where
  direction : Direction
  outcome : Outcome
  now : Instant
  deriving DecidableEq, Repr

/-- Applies a reply and shows the session. A reply that no request waits for does nothing. -/
def receive (repl : Repl) (arrival : Arrival) : Option HistoryEntry × Repl × List Output :=
  match repl.console.complete? arrival.direction arrival.outcome arrival.now with
  | none => (none, repl, [])
  | some (entry, console) => (some entry, ({ repl with console := console } : Repl).render)

end Repl

end QueryBridge
