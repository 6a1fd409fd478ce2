import QueryBridge.View.Panel

/-!
# The view of a session on a terminal

A terminal cannot redraw a panel in place. The view remembers the state that it
rendered last, and each rendering emits the rows for what has changed since. While
a prompt is shown, an emission clears it, writes its rows with carriage returns and
leaves a copy of the prompt behind.

An emission is data. Writing it out happens elsewhere and has no way back into the
view, so a terminal that fails to take an emission changes nothing here.
-/

set_option autoImplicit false

namespace QueryBridge

/-- Rows for the terminal, and the prompt that is shown meanwhile. -/
structure Emission where
  lines : List Line
  prompt : Option String
  deriving DecidableEq, Repr

namespace Emission

/-- The sequence that clears the prompt: to the first column, then to the end of the screen. -/
def clearPrompt : List Char := ['\r', '\x1b', '[', 'J']

/-- The copy of a prompt. -/
def promptLine (message : String) : Line :=
  [Style.command.paint "❯", .plain " ", .plain message, .plain " "]

/-- The characters of an emission. -/
def render (color : Bool) (emission : Emission) : List Char :=
  match emission.prompt with
  | none => Line.renderAll color emission.lines
  | some message =>
    clearPrompt ++ emission.lines.flatMap (fun line => Line.render color line ++ ['\r', '\n']) ++
      Line.render color (promptLine message)

end Emission

/-- A call of the view. -/
inductive ViewCall where
  /-- The session has changed. -/
  | render (state : SessionState) (history : History)
  /-- The result is to be handed over for copying. -/
  | copyResult (text : String)
  /-- A remark that is no part of the session. -/
  | notice (message : String)
  /-- The next rendering shows a history entry that was loaded. -/
  | entryLoaded (entry : HistoryEntry)
  deriving DecidableEq, Repr

/-- What the view remembers: the state and the history length rendered last, whether an entry was
loaded since, and the prompt that is shown. -/
structure View where
  shown : SessionState := {}
  shownLength : Nat := 0
  replayed : Bool := false
  prompt : Option String := none
  deriving DecidableEq, Repr

namespace View

/-- The rows for a loaded entry or a switched direction. -/
def directionLines (view : View) (state : SessionState) : List Line :=
  if view.replayed then
    [[Style.success.paint "↺", .plain " Loaded ", Style.code.paint state.direction.historyLabel,
        .plain " entry"],
      inputLine state.activeInput]
  else if state.direction ≠ view.shown.direction then
    [Style.success.paint "⇄", .plain " ", Style.value.paint state.direction.label] ::
      (if state.activeInput.isEmpty then [] else [inputLine state.activeInput])
  else []

/-- The rows for requests that went out. -/
def startLines (view : View) (state : SessionState) : List Line :=
  (Direction.all.filter fun d => state.isBusy d && !view.shown.isBusy d).map fun d =>
    [Style.secondary.paint ("Translating " ++ d.label ++ "...")]

/-- The rows for a new result. -/
def outcomeLines (view : View) (state : SessionState) (history : History) : List Line :=
  if view.replayed || view.shownLength < history.length || state.outcome ≠ view.shown.outcome then
    state.outcome.elim [] resultLines
  else []

/-- The row for a history that was emptied. -/
def clearedLines (view : View) (history : History) : List Line :=
  if 0 < view.shownLength && history.isEmpty then
    [[Style.success.paint "✓", .plain " History cleared"]]
  else []

/-- The rows for a history panel that opened, changed or closed. -/
def panelLines (view : View) (state : SessionState) (history : History) : List Line :=
  if state.historyVisible then
    if !view.shown.historyVisible || history.length ≠ view.shownLength then historyPanel history
    else []
  else if view.shown.historyVisible then [[Style.secondary.paint "History closed"]]
  else []

/-- The rows for everything that changed since the last rendering. -/
def transitionLines (view : View) (state : SessionState) (history : History) : List Line :=
  view.directionLines state ++ view.startLines state ++ view.outcomeLines state history ++
    view.clearedLines history ++ view.panelLines state history

/-- The emission of rows under the prompt that is shown; no rows make no emission. -/
def emit (view : View) (lines : List Line) : List Emission :=
  if lines.isEmpty then [] else [⟨lines, view.prompt⟩]

/-- The view after it rendered a state. -/
def sync (view : View) (state : SessionState) (history : History) : View :=
  { view with shown := state, shownLength := history.length, replayed := false }

/-- The answer of the view to a call: the view afterwards and what it emits. -/
def respond (view : View) : ViewCall → View × List Emission
  | .render state history =>
    (view.sync state history, view.emit (view.transitionLines state history))
  | .copyResult text => (view, view.emit [Line.plain text])
  | .notice message => (view, view.emit [[Style.warning.paint "!", .plain " ", .plain message]])
  | .entryLoaded _ => ({ view with replayed := true }, [])

/-- The answers of the view to calls, the first one first. -/
def respondAll (view : View) : List ViewCall → View × List Emission
  | [] => (view, [])
  | call :: rest =>
    let (next, first) := view.respond call
    let (last, others) := respondAll next rest
    (last, first ++ others)

/-- Shows a dim remark. -/
def hint (view : View) (message : String) : List Emission :=
  view.emit [[Style.hint.paint message]]

/-- Records the prompt that is shown, or that none is. -/
def setPrompt (view : View) (message : Option String) : View :=
  { view with prompt := message }

end View

end QueryBridge
