import QueryBridge.Proofs.Session.Polls
import QueryBridge.Proofs.View.Transitions
import QueryBridge.Repl.Handle

/-!
# Courses of an interactive session

What happens to an interactive session is a list of moves: a line is handled, the requests in flight
are polled, a reply is received, the session is shown, a prompt comes or goes. Nothing else in its
course touches the session or the view.

To the session below, each move is a list of changes (`Move.ops`), so all that holds over runs of a
session holds over courses (`session_play`, `Reachable.session`). To the view, each move either
shows the session as it then is or changes nothing but the prompt (`move_inSync_or_unmoved`); what
has been polled does not show. Hence the view is in sync with the session whenever a request is in
flight (`Reachable.inSync_of_pending`), also if lines were handled before the first rendering.
-/

set_option autoImplicit false

namespace QueryBridge.Repl

/-- The session below. -/
def session (repl : Repl) : Session :=
  repl.console.session

/-! ## Moves -/

/-- The change that an arrival makes to the session. -/
def Arrival.op (arrival : Arrival) : Session.Op :=
  .complete arrival.direction arrival.outcome arrival.now

theorem step_op_of_pending {s : Session} {arrival : Arrival} {request : Request}
    (h : s.pending? arrival.direction = some request) :
    s.step arrival.op = s.applyOutcome request arrival.outcome arrival.now :=
  Session.step_complete_of_pending h _ _

theorem step_op_of_none {s : Session} {arrival : Arrival}
    (h : s.pending? arrival.direction = none) : s.step arrival.op = s :=
  Session.step_complete_of_none h _ _

/-- What happens to an interactive session. -/
inductive Move where
  | line (text : String)
  | poll
  | reply (arrival : Arrival)
  | render
  | prompt (message : Option String)
  deriving DecidableEq, Repr

/-- The session after a move and what it puts out. -/
def move (repl : Repl) : Move → Repl × List Output
  | .line text => (repl.handleLine text).2
  | .poll => (repl.poll, [])
  | .reply arrival => (repl.receive arrival).2
  | .render => repl.render
  | .prompt message => (repl.setPrompt message, [])

/-- The session after moves, the first one first. -/
def play (repl : Repl) (moves : List Move) : Repl :=
  moves.foldl (fun current m => (current.move m).1) repl

theorem play_cons (repl : Repl) (m : Move) (moves : List Move) :
    repl.play (m :: moves) = (repl.move m).1.play moves :=
  rfl

theorem play_append (repl : Repl) (first later : List Move) :
    repl.play (first ++ later) = (repl.play first).play later :=
  List.foldl_append

/-- An interactive session that a course leads to from some start. -/
def Reachable (repl : Repl) : Prop :=
  ∃ config moves, repl = (new config).play moves

theorem Reachable.play {repl : Repl} (h : repl.Reachable) (moves : List Move) :
    (repl.play moves).Reachable := by
  obtain ⟨config, first, rfl⟩ := h
  exact ⟨config, first ++ moves, (play_append _ first moves).symm⟩

/-! ## Commands and gestures -/

/-- The gesture that a command makes, if it makes one. -/
def gesture? (repl : Repl) : Command → Option Intent
  | .direction d => some (.switchDirection d)
  | .switch => some (.switchDirection repl.state.direction.toggled)
  | .draft text => some (.editInput repl.state.direction text)
  | .submit => if repl.state.submitEnabled then some .submit else none
  | .history => some .toggleHistory
  | .load number => number.map fun n => .selectEntry (n - 1)
  | .clear => some .clearHistory
  | .copy => some .copyResult
  | .status | .config | .help | .quit | .unknown _ => none

/-- What a command that makes no gesture puts out. -/
def remark (repl : Repl) : Command → List Output
  | .submit => (repl.console.view.hint (refusal repl.state)).map .screen
  | .load _ => [.err (Screen.error "Usage: /load <n>")]
  | .status => [.out (Screen.status repl.state)]
  | .config => [.out (Screen.config repl.config)]
  | .help => [.out Screen.help]
  | .unknown text => [.err (Screen.error ("Unknown command: /" ++ text))]
  | .direction _ | .switch | .draft _ | .history | .clear | .copy | .quit => []

/-- A submission is the gesture that the state offers for it, or else a remark. -/
theorem submit_eq (repl : Repl) :
    repl.submit = (repl.gesture? .submit).elim (repl, repl.remark .submit) repl.apply := by
  rw [submit, gesture?]
  split
  · rfl
  · rfl

/-- A command makes its gesture, or it leaves the session alone and puts out a remark. -/
theorem handleCommand_eq (repl : Repl) (command : Command) :
    (repl.handleCommand command).2 =
      (repl.gesture? command).elim (repl, repl.remark command) repl.apply := by
  cases command with
  | submit => exact submit_eq repl
  | load number =>
      cases number with
      | none => rfl
      | some number => rfl
  | direction d => rfl
  | switch => rfl
  | draft text => rfl
  | history => rfl
  | clear => rfl
  | copy => rfl
  | status => rfl
  | config => rfl
  | help => rfl
  | quit => rfl
  | unknown text => rfl

/-! ## What a move is to the session -/

/-- The changes that a command makes to a session. -/
def commandOps (s : Session) : Command → List Session.Op
  | .direction d => [.setDirection d]
  | .switch => [.setDirection s.state.direction.toggled]
  | .draft text => [.edit s.state.direction text]
  | .submit => [.submit]
  | .history => [.toggleHistory]
  | .load (some number) => ((s.history.get? (number - 1)).map Session.Op.load).toList
  | .clear => [.clearHistory]
  | .load none | .copy | .status | .config | .help | .quit | .unknown _ => []

/-- The changes that a line makes to a session. -/
def inputOps (s : Session) : Input → List Session.Op
  | .empty => []
  | .text query => [.edit s.state.direction query, .submit]
  | .command command => commandOps s command

/-- The changes that a move makes to a session. -/
def Move.ops (s : Session) : Move → List Session.Op
  | .line text => inputOps s (Input.parse text)
  | .poll => [.poll]
  | .reply arrival => [arrival.op]
  | .render | .prompt _ => []

theorem session_apply (repl : Repl) (intent : Intent) :
    (repl.apply intent).1.session = (intent.apply repl.session).1 :=
  rfl

/-- Submitting with the guard of the prompt is submitting: the guard lets pass what the session
accepts. -/
theorem session_submit (repl : Repl) : repl.submit.1.session = repl.session.step .submit := by
  rw [submit]
  split
  · rfl
  · rename_i h
    -- What the guard holds back the session would refuse as well.
    have hrefused : repl.session.submit.1 = false := by
      rw [Session.submit_fst]
      exact Bool.eq_false_iff.2 h
    exact (Session.step_submit_of_refused hrefused).symm

theorem session_handleCommand (repl : Repl) (command : Command) :
    (repl.handleCommand command).2.1.session =
      repl.session.run (commandOps repl.session command) := by
  cases command with
  | submit => exact session_submit repl
  | load number =>
      cases number with
      | none => rfl
      | some number =>
          rw [handleCommand, session_apply, Intent.apply, commandOps]
          cases repl.session.history.get? (number - 1) <;> rfl
  | copy =>
      rw [handleCommand, session_apply, Intent.apply]
      cases repl.session.state.outcome <;> rfl
  | direction d => rfl
  | switch => rfl
  | draft text => rfl
  | history => rfl
  | clear => rfl
  | status => rfl
  | config => rfl
  | help => rfl
  | quit => rfl
  | unknown text => rfl

/-- A line changes the session by the changes that it stands for, one after another. -/
theorem session_handleLine (repl : Repl) (line : String) :
    (repl.handleLine line).2.1.session =
      repl.session.run (inputOps repl.session (Input.parse line)) := by
  rw [handleLine]
  cases Input.parse line with
  | empty => rfl
  -- A query is an edit followed by a submission.
  | text query => exact session_submit (repl.apply (.editInput repl.state.direction query)).1
  | command command => exact session_handleCommand repl command

/-- A reply that a request in flight waits for is applied and shown. -/
theorem receive_of_pending {repl : Repl} {arrival : Arrival} {request : Request}
    (h : repl.session.pending? arrival.direction = some request) :
    repl.receive arrival =
      (some (Session.entryOf request arrival.outcome arrival.now),
        Repl.render ⟨repl.config, ⟨repl.session.applyOutcome request arrival.outcome arrival.now,
          repl.console.view⟩⟩) := by
  rw [session] at h
  rw [receive, Console.complete?, Session.complete?, h]
  rfl

/-- A reply for which nothing is in flight is not shown and changes nothing. -/
theorem receive_of_none {repl : Repl} {arrival : Arrival}
    (h : repl.session.pending? arrival.direction = none) :
    repl.receive arrival = (none, repl, []) := by
  rw [session] at h
  rw [receive, Console.complete?, Session.complete?, h]
  rfl

theorem session_receive (repl : Repl) (arrival : Arrival) :
    (repl.receive arrival).2.1.session = repl.session.step arrival.op := by
  cases hp : repl.session.pending? arrival.direction with
  | none => rw [receive_of_none hp, step_op_of_none hp]
  | some request =>
      rw [receive_of_pending hp, step_op_of_pending hp]
      rfl

theorem session_move (repl : Repl) (m : Move) :
    (repl.move m).1.session = repl.session.run (m.ops repl.session) := by
  cases m with
  | line text => exact session_handleLine repl text
  | poll => rfl
  | reply arrival => exact session_receive repl arrival
  | render => rfl
  | prompt message => rfl

/-- The changes that a course makes to the session. -/
def playOps (repl : Repl) : List Move → List Session.Op
  | [] => []
  | m :: moves => m.ops repl.session ++ (repl.move m).1.playOps moves

/-- A course of moves is, for the session, the run of all their changes. -/
theorem session_play (repl : Repl) (moves : List Move) :
    (repl.play moves).session = repl.session.run (repl.playOps moves) := by
  induction moves generalizing repl with
  | nil => rfl
  | cons m moves ih =>
      rw [play_cons, ih, session_move, playOps, Session.run_append]

theorem Reachable.session {repl : Repl} (h : repl.Reachable) : repl.session.Reachable := by
  obtain ⟨config, moves, rfl⟩ := h
  exact ⟨.setDirection config.direction :: (new config).playOps moves, session_play _ moves⟩

/-! ## What a move is to the view -/

/-- The view has rendered the session as it is. -/
def InSync (repl : Repl) : Prop :=
  repl.console.view.InSync repl.session

/-- The session below is the same once polled, and the view differs in the prompt that is shown at
most. -/
def Unmoved (before after : Repl) : Prop :=
  after.session.poll = before.session.poll ∧
    after.console.view = before.console.view.setPrompt after.console.view.prompt

theorem Unmoved.refl (repl : Repl) : Unmoved repl repl :=
  ⟨rfl, rfl⟩

/-- Where neither what is shown nor the view has moved, the view remains in step. -/
theorem Unmoved.inSync {before after : Repl} (h : Unmoved before after) (hs : before.InSync) :
    after.InSync := by
  -- Neither what the user sees nor the log depends on what has been polled.
  have hstate : after.session.poll.state = before.session.poll.state := congrArg Session.state h.1
  have hlog : after.session.poll.history.length = before.session.poll.history.length :=
    congrArg (·.history.length) h.1
  rw [InSync, h.2]
  exact ⟨hs.shown.trans hstate.symm, hs.length.trans hlog.symm, hs.replayed⟩

theorem render_inSync (repl : Repl) : repl.render.1.InSync :=
  View.sync_inSync repl.console.view repl.session

/-- An intent is shown, or it changes nothing. -/
theorem apply_inSync_or_same (repl : Repl) (intent : Intent) :
    (repl.apply intent).1.InSync ∨ (repl.apply intent).1 = repl := by
  cases intent with
  -- Only an entry that is not there and an outcome to copy leave the session as it was.
  | selectEntry index =>
      cases hentry : repl.session.history.get? index with
      | none =>
          right
          rw [session] at hentry
          rw [apply, Console.dispatch, Intent.apply, hentry]
          rfl
      | some entry =>
          left
          rw [session] at hentry
          rw [apply, Console.dispatch, Intent.apply, hentry]
          exact View.sync_inSync _ _
  | copyResult =>
      right
      cases hout : repl.session.state.outcome with
      | none =>
          rw [session] at hout
          rw [apply, Console.dispatch, Intent.apply, hout]
          rfl
      | some outcome =>
          rw [session] at hout
          rw [apply, Console.dispatch, Intent.apply, hout]
          rfl
  | submit => exact .inl (View.sync_inSync _ _)
  | switchDirection d => exact .inl (View.sync_inSync _ _)
  | editInput d text => exact .inl (View.sync_inSync _ _)
  | toggleHistory => exact .inl (View.sync_inSync _ _)
  | clearHistory => exact .inl (View.sync_inSync _ _)

theorem submit_inSync_or_same (repl : Repl) : repl.submit.1.InSync ∨ repl.submit.1 = repl := by
  rw [submit]
  split
  · exact apply_inSync_or_same repl .submit
  · exact .inr rfl

theorem handleCommand_inSync_or_same (repl : Repl) (command : Command) :
    (repl.handleCommand command).2.1.InSync ∨ (repl.handleCommand command).2.1 = repl := by
  rw [handleCommand_eq]
  cases repl.gesture? command with
  | none => exact .inr rfl
  | some intent => exact apply_inSync_or_same repl intent

/-- A line ends with a rendering, or leaves the session and the view alone. -/
theorem handleLine_inSync_or_same (repl : Repl) (line : String) :
    (repl.handleLine line).2.1.InSync ∨ (repl.handleLine line).2.1 = repl := by
  rw [handleLine]
  cases Input.parse line with
  | empty => exact .inr rfl
  | text query =>
      -- The edit is shown, so what a refused submission leaves is shown as well.
      have hedited : (repl.apply (.editInput repl.state.direction query)).1.InSync :=
        View.sync_inSync _ _
      rcases submit_inSync_or_same (repl.apply (.editInput repl.state.direction query)).1 with h | h
      · exact .inl h
      · left
        rw [handleInput, submitText]
        exact h ▸ hedited
  | command command => exact handleCommand_inSync_or_same repl command

/-- A move shows the session as it then is, or changes the prompt at most. -/
theorem move_inSync_or_unmoved (repl : Repl) (m : Move) :
    (repl.move m).1.InSync ∨ Unmoved repl (repl.move m).1 := by
  cases m with
  | line text =>
      rcases handleLine_inSync_or_same repl text with h | h
      · exact .inl h
      · right
        rw [move, h]
        exact Unmoved.refl repl
  | reply arrival =>
      cases hp : repl.session.pending? arrival.direction with
      | none =>
          right
          rw [move, receive_of_none hp]
          exact Unmoved.refl repl
      | some request =>
          left
          rw [move, receive_of_pending hp]
          exact render_inSync _
  | poll => exact .inr ⟨Session.poll_congr rfl rfl rfl (Session.submitted_poll repl.session), rfl⟩
  | render => exact .inl (render_inSync repl)
  | prompt message => exact .inr ⟨rfl, rfl⟩

/-- From the start on, the view is in step as soon as a request is in flight. -/
theorem inSync_or_idle_play (config : ReplConfig) (moves : List Move) :
    ((new config).play moves).InSync ∨ ((new config).play moves).session.inFlight = [] := by
  -- From the end of the course: the last move shows the session or leaves it as it was.
  induction moves using List.reverseRecOn with
  | nil => exact .inr rfl
  | append_singleton moves m ih =>
      rw [play_append]
      rcases move_inSync_or_unmoved ((new config).play moves) m with hs | hu
      · exact .inl hs
      · refine ih.imp hu.inSync fun hidle => ?_
        have hflight : ((((new config).play moves).move m).1.session.poll).inFlight =
            ((new config).play moves).session.poll.inFlight := congrArg Session.inFlight hu.1
        exact hflight.trans hidle

/-- While a request is in flight, the view has rendered the session as it is. -/
theorem Reachable.inSync_of_pending {repl : Repl} (h : repl.Reachable)
    (hpending : repl.session.inFlight ≠ []) : repl.InSync := by
  obtain ⟨config, moves, rfl⟩ := h
  exact (inSync_or_idle_play config moves).resolve_right hpending

end QueryBridge.Repl
