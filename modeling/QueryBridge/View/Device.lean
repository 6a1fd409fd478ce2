import QueryBridge.View.Intent

/-!
# Writing to a device that may fail

What the view emits is written piece by piece. The first piece that the device does
not take as a whole ends the writing, and what has been taken of the emission stays
where it is. The view looks at what became of an emission only to note it: it has
brought itself up to date before.
-/

set_option autoImplicit false

namespace QueryBridge

/-- Where characters go. What a device takes may depend on anything that happened to it before. -/
structure Device (m : Type → Type) where
  /-- Offers characters, and tells how many of them were taken. -/
  put : List Char → m Nat
  /-- Whether all that was taken went out. -/
  flush : m Bool

/-- What became of an emission: the characters of it that were taken, and whether these are all of
them and went out. -/
structure Attempt where
  emission : Emission
  taken : List Char
  whole : Bool
  deriving DecidableEq, Repr

variable {m : Type → Type} [Monad m]

namespace Device

/-- A device that takes everything. -/
def flawless : Device m where
  put piece := pure piece.length
  flush := pure true

/-- Offers pieces until one of them is not taken as a whole. Gives the characters taken, and whether
nothing failed. -/
def putAll (device : Device m) : List (List Char) → m (List Char × Bool)
  | [] => do
    let out ← device.flush
    return ([], out)
  | piece :: rest => do
    let count ← device.put piece
    if count < piece.length then return (piece.take count, false)
    let (taken, whole) ← device.putAll rest
    return (piece ++ taken, whole)

end Device

namespace Emission

/-- The pieces of an emission, in the order of writing. -/
def pieces (color : Bool) (emission : Emission) : List (List Char) :=
  match emission.prompt with
  | none => emission.lines.map fun line => Line.render color line ++ ['\n']
  | some message =>
    clearPrompt :: emission.lines.map (fun line => Line.render color line ++ ['\r', '\n']) ++
      [Line.render color (promptLine message)]

/-- Writes an emission. -/
def writeTo (device : Device m) (color : Bool) (emission : Emission) : m Attempt := do
  let (taken, whole) ← device.putAll (emission.pieces color)
  return ⟨emission, taken, whole⟩

end Emission

namespace View

/-- Writes rows under the prompt that is shown. No rows are no attempt. -/
def emitTo (device : Device m) (color : Bool) (lines : List Line) :
    StateT View m (List Attempt) := do
  if lines.isEmpty then return []
  let view ← get
  let attempt ← StateT.lift ((Emission.mk lines view.prompt).writeTo device color)
  return [attempt]

/-- Answers a call. A rendering brings the view up to date before it writes. -/
def respondTo (device : Device m) (color : Bool) : ViewCall → StateT View m (List Attempt)
  | .render state history => do
    let view ← get
    let lines := view.transitionLines state history
    set { view with replayed := false }
    modify fun view => { view with shown := state, shownLength := history.length }
    emitTo device color lines
  | .copyResult text => emitTo device color [Line.plain text]
  | .notice message => emitTo device color [[Style.warning.paint "!", .plain " ", .plain message]]
  | .entryLoaded _ => do
    modify fun view => { view with replayed := true }
    return []

/-- Answers calls, the first one first. -/
def respondAllTo (device : Device m) (color : Bool) : List ViewCall → StateT View m (List Attempt)
  | [] => return []
  | call :: rest => do
    let first ← respondTo device color call
    let others ← respondAllTo device color rest
    return first ++ others

end View

namespace Console

/-- What is done with a console. -/
inductive Op where
  | intent (gesture : Intent)
  /-- The requests in flight are polled, and no reply is there. -/
  | poll
  /-- A reply arrives, and is not shown yet. -/
  | complete (d : Direction) (outcome : Outcome) (now : Instant)
  /-- The session is shown. -/
  | render
  /-- The prompt that is shown is another one, or none is. -/
  | prompt (message : Option String)
  | hint (message : String)
  deriving DecidableEq, Repr

/-- A step of a console: the console afterwards, the calls that the view got, and for each emission
something about it. -/
structure Turn (α : Type) where
  console : Console
  calls : List ViewCall
  shown : List α

/-- Lets the view of a console act. -/
def onView {α : Type} (act : StateT View m α) : StateT Console m α := do
  let console ← get
  let (result, view) ← act.run console.view
  set { console with view := view }
  return result

/-- Lets the view answer calls. -/
def callView (device : Device m) (color : Bool) (calls : List ViewCall) :
    StateT Console m (List ViewCall × List Attempt) := do
  let attempts ← onView (View.respondAllTo device color calls)
  return (calls, attempts)

/-- Carries an operation out, on a device. Gives the calls that the view got and what became of its
emissions. -/
def operateOn (device : Device m) (color : Bool) :
    Op → StateT Console m (List ViewCall × List Attempt)
  | .intent gesture => do
    let console ← get
    let (session, calls) := gesture.apply console.session
    set { console with session := session }
    callView device color calls
  | .poll => do
    modify Console.poll
    return ([], [])
  | .complete d outcome now => do
    let console ← get
    if let some (_, after) := console.complete? d outcome now then set after
    return ([], [])
  | .render => do
    let console ← get
    callView device color [.ofSession console.session]
  | .prompt message => do
    onView (modify fun view => view.setPrompt message)
    return ([], [])
  | .hint message => do
    let attempts ← onView (View.emitTo device color [[Style.hint.paint message]])
    return ([], attempts)

/-- The steps of a course of operations on a device. -/
def turnsOn (device : Device m) (color : Bool) : List Op → StateT Console m (List (Turn Attempt))
  | [] => return []
  | op :: rest => do
    let (calls, attempts) ← operateOn device color op
    let console ← get
    let others ← turnsOn device color rest
    return ⟨console, calls, attempts⟩ :: others

end Console

end QueryBridge
