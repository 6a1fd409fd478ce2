import QueryBridge.View.Terminal

/-!
# Intents

An intent is a gesture of the user. Applying it changes the session and decides
which calls the view gets; what the view does with them has no influence on either.
-/

set_option autoImplicit false

namespace QueryBridge

/-- A gesture of the user. -/
inductive Intent where
  | submit
  | switchDirection (d : Direction)
  | editInput (d : Direction) (text : String)
  | toggleHistory
  /-- The index counts from zero. -/
  | selectEntry (index : Nat)
  | clearHistory
  | copyResult
  deriving DecidableEq, Repr

/-- The call that shows a session. -/
def ViewCall.ofSession (s : Session) : ViewCall :=
  .render s.state s.history

/-- The notice about an index that has no history entry. -/
def missingEntryNotice (index : Nat) : String :=
  "No history entry #" ++ String.ofList (Text.decimal (index + 1))

/-- The notice where there is no result to copy. -/
def nothingToCopyNotice : String := "Nothing to copy yet"

namespace Intent

/-- The session after an intent and the calls that the view gets. -/
def apply (s : Session) : Intent → Session × List ViewCall
  | .submit => let after := s.submit.2; (after, [.ofSession after])
  | .switchDirection d => let after := s.setDirection d; (after, [.ofSession after])
  | .editInput d text => let after := s.edit d text; (after, [.ofSession after])
  | .toggleHistory => let after := s.toggleHistory; (after, [.ofSession after])
  | .selectEntry index =>
    match s.history.get? index with
    | none => (s, [.notice (missingEntryNotice index)])
    | some entry => let after := s.load entry; (after, [.entryLoaded entry, .ofSession after])
  | .clearHistory => let after := s.clearHistory; (after, [.ofSession after])
  | .copyResult =>
    match s.state.outcome with
    | some outcome => (s, [.copyResult outcome.text])
    | none => (s, [.notice nothingToCopyNotice])

end Intent

/-- A session and the view on it. -/
structure Console where
  session : Session := {}
  view : View := {}
  deriving DecidableEq, Repr

namespace Console

/-- Applies an intent: the console afterwards, the calls of the view and its emissions. -/
def dispatch (console : Console) (intent : Intent) : Console × List ViewCall × List Emission :=
  let (session, calls) := intent.apply console.session
  let (view, emissions) := console.view.respondAll calls
  (⟨session, view⟩, calls, emissions)

/-- Shows the session. -/
def render (console : Console) : Console × List Emission :=
  let (view, emissions) := console.view.respond (.ofSession console.session)
  ({ console with view := view }, emissions)

/-- Polls the requests in flight. The view has no part in it. -/
def poll (console : Console) : Console :=
  { console with session := console.session.poll }

/-- Completes a request, without showing it. -/
def complete? (d : Direction) (outcome : Outcome) (now : Instant) (console : Console) :
    Option (HistoryEntry × Console) :=
  (console.session.complete? d outcome now).map fun (entry, session) =>
    (entry, { console with session := session })

end Console

end QueryBridge
