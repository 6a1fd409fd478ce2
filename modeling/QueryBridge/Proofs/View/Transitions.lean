import QueryBridge.Proofs.Session.Busy
import QueryBridge.View.Intent

/-!
# Rows for changes are rows of events

The view does not hear of events. It compares what it rendered last with what it is asked to render:
the direction, two busy flags, the outcome, the length of the log, the panel, and a flag for a
loaded entry. `eventLines` says instead what each event writes, from the event and the session
before it.

A view in sync with a session writes for every event the rows of `eventLines` and is in sync
afterwards, so over any course of events the emissions are those of an event-driven view
(`follow_eq_narrate`). Each comparison has a lemma that says when it writes nothing; the rows of an
event are then those of the comparisons it sets off.
-/

set_option autoImplicit false

namespace QueryBridge

namespace View

/-- The view has rendered a session as it is, and no loaded entry waits to be announced. -/
structure InSync (view : View) (s : Session) : Prop where
  shown : view.shown = s.state
  length : view.shownLength = s.history.length
  replayed : view.replayed = false

theorem sync_inSync (view : View) (s : Session) : (view.sync s.state s.history).InSync s :=
  ⟨rfl, rfl, rfl⟩

/-! ## Comparisons that write nothing -/

section Unchanged

variable {view : View} {state : SessionState} {history : History}

theorem directionLines_eq_nil (hr : view.replayed = false)
    (hd : state.direction = view.shown.direction) : view.directionLines state = [] := by
  simp [directionLines, hr, hd]

theorem startLines_eq_nil (h : ∀ d, state.isBusy d = true → view.shown.isBusy d = true) :
    view.startLines state = [] := by
  rw [startLines, List.map_eq_nil_iff, List.filter_eq_nil_iff]
  intro d _ hd
  rw [Bool.and_eq_true, Bool.not_eq_true'] at hd
  rw [h d hd.1] at hd
  exact Bool.noConfusion hd.2

/-- An outcome that was shown before is not shown again. -/
theorem outcomeLines_eq_nil (hr : view.replayed = false) (hl : history.length ≤ view.shownLength)
    (ho : state.outcome = view.shown.outcome) : view.outcomeLines state history = [] := by
  simp [outcomeLines, hr, ho, Nat.not_lt.2 hl]

/-- A longer log or a loaded entry has its outcome shown, also if it looks like the one before. -/
theorem outcomeLines_of_new {outcome : Outcome}
    (hnew : view.replayed = true ∨ view.shownLength < history.length)
    (ho : state.outcome = some outcome) :
    view.outcomeLines state history = resultLines outcome := by
  rcases hnew with h | h <;> simp [outcomeLines, ho, h]

theorem clearedLines_eq_nil (h : view.shownLength ≤ history.length) :
    view.clearedLines history = [] := by
  have hne : 0 < view.shownLength → history.isEmpty = false := by
    intro hpos
    rw [History.isEmpty, List.isEmpty_eq_false_iff, ← List.length_pos_iff]
    exact Nat.lt_of_lt_of_le hpos h
  simpa [clearedLines] using hne

theorem panelLines_eq_nil (hv : state.historyVisible = view.shown.historyVisible)
    (hl : history.length = view.shownLength) : view.panelLines state history = [] := by
  cases hs : view.shown.historyVisible <;> simp [panelLines, hv, hl, hs]

/-- The rows of a rendering are put together from its five parts. -/
theorem transitionLines_of_parts (state : SessionState) (history : History)
    {direction started outcome cleared panel : List Line}
    (hd : view.directionLines state = direction) (hs : view.startLines state = started)
    (ho : view.outcomeLines state history = outcome) (hc : view.clearedLines history = cleared)
    (hp : view.panelLines state history = panel) :
    view.transitionLines state history = direction ++ started ++ outcome ++ cleared ++ panel := by
  rw [transitionLines, hd, hs, ho, hc, hp]

end Unchanged

/-! ## Rows of an event -/

/-- The row for a request that went out. -/
def startedLine (d : Direction) : Line :=
  [Style.secondary.paint ("Translating " ++ d.label ++ "...")]

/-- The row for a direction that was selected. -/
def switchedLine (d : Direction) : Line :=
  [Style.success.paint "⇄", .plain " ", Style.value.paint d.label]

/-- The row for a history entry that was loaded. -/
def loadedLine (d : Direction) : Line :=
  [Style.success.paint "↺", .plain " Loaded ", Style.code.paint d.historyLabel, .plain " entry"]

/-- The row for a history that was emptied. -/
def clearedLine : Line :=
  [Style.success.paint "✓", .plain " History cleared"]

/-- The row for a history panel that was closed. -/
def closedLine : Line :=
  [Style.secondary.paint "History closed"]

/-- The title of the history panel. -/
def panelTitle : Line :=
  [Style.header.paint "Translation History"]

/-- The row for a notice. -/
def noticeLine (message : String) : Line :=
  [Style.warning.paint "!", .plain " ", .plain message]

/-- The rows for selecting a direction. -/
def switchLines (s : Session) (d : Direction) : List Line :=
  if d = s.state.direction then []
  else switchedLine d ::
    if (s.state.input d).isEmpty then [] else [inputLine (s.state.input d)]

/-- The rows for toggling the history panel. -/
def toggleLines (s : Session) : List Line :=
  if s.state.historyVisible then [closedLine] else historyPanel s.history

/-- The rows for clearing the history. -/
def clearLines (s : Session) : List Line :=
  if s.history.isEmpty then []
  else clearedLine :: if s.state.historyVisible then historyPanel s.history.clear else []

/-- The rows for loading a history entry. -/
def loadLines (s : Session) (entry : HistoryEntry) : List Line :=
  loadedLine entry.direction :: inputLine entry.input :: resultLines (.success entry.output) ++
    if s.state.historyVisible then [closedLine] else []

/-- The rows for a reply that is applied. -/
def replyLines (s : Session) (request : Request) (outcome : Outcome) (now : Instant) : List Line :=
  resultLines outcome ++
    if s.state.historyVisible then
      historyPanel (s.history.append (Session.entryOf request outcome now))
    else []

/-! ## Rows that the comparisons give -/

namespace InSync

variable {view : View} {s : Session}

theorem direction (h : view.InSync s) : s.state.direction = view.shown.direction := by
  rw [h.shown]

theorem outcome (h : view.InSync s) : s.state.outcome = view.shown.outcome := by
  rw [h.shown]

theorem historyVisible (h : view.InSync s) :
    s.state.historyVisible = view.shown.historyVisible := by
  rw [h.shown]

theorem isBusy (h : view.InSync s) (d : Direction) : s.state.isBusy d = view.shown.isBusy d := by
  rw [h.shown]

theorem length_le (h : view.InSync s) : s.history.length ≤ view.shownLength :=
  Nat.le_of_eq h.length.symm

theorem le_length (h : view.InSync s) : view.shownLength ≤ s.history.length :=
  Nat.le_of_eq h.length

/-- A state that differs in its buffers at most writes nothing. -/
theorem lines_of_inputs (h : view.InSync s) (inputs : PerDirection String) :
    view.transitionLines { s.state with inputs := inputs } s.history = [] :=
  transitionLines_of_parts { s.state with inputs := inputs } s.history
    (directionLines_eq_nil h.replayed h.direction) (startLines_eq_nil fun d hd => h.isBusy d ▸ hd)
    (outcomeLines_eq_nil h.replayed h.length_le h.outcome) (clearedLines_eq_nil h.le_length)
    (panelLines_eq_nil h.historyVisible h.length.symm)

/-- The one direction that a submission makes busy. -/
theorem startLines_send (h : view.InSync s) (hs : s.submit.1 = true) :
    view.startLines s.send.state = [startedLine s.state.direction] := by
  have hfree := Session.isBusy_of_accepted hs
  -- The other direction keeps its flag, so the filter over both directions leaves the selected one.
  have hnew (d : Direction) :
      (s.send.state.isBusy d && !view.shown.isBusy d) = (d == s.state.direction) := by
    rw [Session.isBusy_send, ← h.isBusy]
    by_cases hd : d = s.state.direction
    · simp [hd, hfree]
    · simp [hd]
  have hfilter : Direction.all.filter (· == s.state.direction) = [s.state.direction] := by
    cases s.state.direction <;> rfl
  rw [startLines, funext hnew, hfilter]
  rfl

/-- A request that goes out is announced, and nothing else. -/
theorem lines_send (h : view.InSync s) (hs : s.submit.1 = true) :
    view.transitionLines s.send.state s.send.history = [startedLine s.state.direction] :=
  transitionLines_of_parts s.send.state s.send.history
    (directionLines_eq_nil h.replayed h.direction) (h.startLines_send hs)
    (outcomeLines_eq_nil h.replayed h.length_le h.outcome) (clearedLines_eq_nil h.le_length)
    (panelLines_eq_nil h.historyVisible h.length.symm)

/-- Another direction is shown with what is in its buffer, and the one that is selected already is
not. -/
theorem lines_setDirection (h : view.InSync s) (d : Direction) :
    view.transitionLines (s.setDirection d).state (s.setDirection d).history =
      switchLines s d := by
  have hdir : view.directionLines (s.setDirection d).state = switchLines s d := by
    have hnew : (s.setDirection d).state.direction = d := rfl
    have hinput : (s.setDirection d).state.activeInput = s.state.input d := rfl
    rw [directionLines, hnew, hinput, h.shown, h.replayed, switchLines]
    by_cases hd : d = s.state.direction
    · simp [hd]
    · simp [hd, switchedLine]
  rw [transitionLines_of_parts (s.setDirection d).state (s.setDirection d).history hdir
    (startLines_eq_nil fun e he => h.isBusy e ▸ he)
    (outcomeLines_eq_nil h.replayed h.length_le h.outcome) (clearedLines_eq_nil h.le_length)
    (panelLines_eq_nil h.historyVisible h.length.symm)]
  simp only [List.append_nil]

theorem lines_toggleHistory (h : view.InSync s) :
    view.transitionLines s.toggleHistory.state s.toggleHistory.history = toggleLines s := by
  have hpanel : view.panelLines s.toggleHistory.state s.toggleHistory.history = toggleLines s := by
    have hnew : s.toggleHistory.state.historyVisible = !s.state.historyVisible := rfl
    have hlog : s.toggleHistory.history = s.history := rfl
    rw [panelLines, hnew, hlog, ← h.historyVisible, toggleLines]
    cases s.state.historyVisible <;> rfl
  rw [transitionLines_of_parts s.toggleHistory.state s.toggleHistory.history
    (directionLines_eq_nil h.replayed h.direction)
    (startLines_eq_nil fun e he => h.isBusy e ▸ he)
    (outcomeLines_eq_nil h.replayed h.length_le h.outcome) (clearedLines_eq_nil h.le_length)
    hpanel]
  simp only [List.append_nil, List.nil_append]

theorem lines_clearHistory (h : view.InSync s) :
    view.transitionLines s.clearHistory.state s.clearHistory.history = clearLines s := by
  have hout : view.outcomeLines s.clearHistory.state s.clearHistory.history = [] :=
    outcomeLines_eq_nil h.replayed (Nat.zero_le _) h.outcome
  have hlog : s.clearHistory.history = s.history.clear := rfl
  have hvis : s.clearHistory.state.historyVisible = s.state.historyVisible := rfl
  rw [transitionLines_of_parts s.clearHistory.state s.clearHistory.history
    (directionLines_eq_nil h.replayed h.direction)
    (startLines_eq_nil fun e he => h.isBusy e ▸ he) hout rfl rfl]
  rw [clearedLines, panelLines, hlog, hvis, ← h.historyVisible, h.length, clearLines]
  -- An empty log has nothing to clear, and only then does its length stay the same.
  cases hentries : s.history.entries with
  | nil => cases s.state.historyVisible <;> simp [History.isEmpty, History.length, hentries]
  | cons entry rest =>
      cases s.state.historyVisible <;>
        simp [History.isEmpty, History.length, History.clear, hentries, clearedLine]

/-- A reply has its outcome shown, and an open panel with the new entry. -/
theorem lines_applyOutcome (h : view.InSync s) (request : Request) (outcome : Outcome)
    (now : Instant) :
    view.transitionLines (s.applyOutcome request outcome now).state
      (s.applyOutcome request outcome now).history = replyLines s request outcome now := by
  have hlog : (s.applyOutcome request outcome now).history =
      s.history.append (Session.entryOf request outcome now) := rfl
  -- The log grew, so an outcome equal to the one on the screen is written all the same.
  have hlonger : view.shownLength < (s.applyOutcome request outcome now).history.length := by
    rw [hlog, History.length_append, h.length]
    exact Nat.lt_succ_self _
  -- The flag of the request goes down and the other one stays, so no direction became busy.
  have hstart : view.startLines (s.applyOutcome request outcome now).state = [] := by
    refine startLines_eq_nil fun d hd => ?_
    rw [Session.isBusy_applyOutcome] at hd
    by_cases hdir : d = request.direction
    · simp [hdir] at hd
    · rw [if_neg hdir, h.isBusy] at hd
      exact hd
  have hpanel : view.panelLines (s.applyOutcome request outcome now).state
      (s.applyOutcome request outcome now).history =
      if s.state.historyVisible then
        historyPanel (s.history.append (Session.entryOf request outcome now)) else [] := by
    have hvis : (s.applyOutcome request outcome now).state.historyVisible =
        s.state.historyVisible := rfl
    rw [panelLines, hvis, ← h.historyVisible, hlog]
    cases s.state.historyVisible with
    | false => rfl
    | true =>
        rw [← hlog]
        simp [Nat.ne_of_gt hlonger]
  rw [transitionLines_of_parts (s.applyOutcome request outcome now).state
    (s.applyOutcome request outcome now).history
    (directionLines_eq_nil h.replayed h.direction) hstart
    (outcomeLines_of_new (.inr hlonger) rfl) (clearedLines_eq_nil (Nat.le_of_lt hlonger)) hpanel]
  simp only [List.nil_append, List.append_nil, replyLines]

/-- An entry that is loaded is shown with its input and its outcome. -/
theorem lines_load (h : view.InSync s) (entry : HistoryEntry) :
    ({ view with replayed := true } : View).transitionLines (s.load entry).state
      (s.load entry).history = loadLines s entry := by
  have hdir : ({ view with replayed := true } : View).directionLines (s.load entry).state =
      [loadedLine entry.direction, inputLine entry.input] := by
    have hinput : (s.load entry).state.activeInput = entry.input :=
      PerDirection.get_set_self _ _ _
    rw [directionLines, if_pos rfl, hinput]
    rfl
  -- A load closes the panel, so the panel is never redrawn.
  have hpanel : ({ view with replayed := true } : View).panelLines (s.load entry).state
      (s.load entry).history = if s.state.historyVisible then [closedLine] else [] := by
    rw [h.historyVisible]
    rfl
  rw [transitionLines_of_parts (s.load entry).state (s.load entry).history hdir
    (startLines_eq_nil fun e he => h.isBusy e ▸ he) (outcomeLines_of_new (.inl rfl) rfl)
    (clearedLines_eq_nil h.le_length) hpanel]
  simp [loadLines]

end InSync

end View

/-! ## Events of a console -/

namespace Console

/-- What happens to a console: an intent of the user, or a reply that is shown at once. -/
inductive Event where
  | intent (gesture : Intent)
  | reply (d : Direction) (outcome : Outcome) (now : Instant)
  deriving DecidableEq, Repr

/-- The session after an event. -/
def Event.session (s : Session) : Event → Session
  | .intent gesture => (gesture.apply s).1
  | .reply d outcome now => s.step (.complete d outcome now)

/-- The rows that an event writes, told from the event and the session before it. -/
def eventLines (s : Session) : Event → List Line
  | .intent .submit => if s.submit.1 then [View.startedLine s.state.direction] else []
  | .intent (.switchDirection d) => View.switchLines s d
  | .intent (.editInput _ _) => []
  | .intent .toggleHistory => View.toggleLines s
  | .intent (.selectEntry index) =>
    match s.history.get? index with
    | some entry => View.loadLines s entry
    | none => [View.noticeLine (missingEntryNotice index)]
  | .intent .clearHistory => View.clearLines s
  | .intent .copyResult =>
    match s.state.outcome with
    | some outcome => [Line.plain outcome.text]
    | none => [View.noticeLine nothingToCopyNotice]
  | .reply d outcome now =>
    match s.pending? d with
    | some request => View.replyLines s request outcome now
    | none => []

/-- The console after an event and what the view emits. -/
def follow (console : Console) : Event → Console × List Emission
  | .intent gesture =>
    let (after, _, emissions) := console.dispatch gesture
    (after, emissions)
  | .reply d outcome now =>
    match console.complete? d outcome now with
    | some (_, after) => after.render
    | none => (console, [])

/-- The console after events, the first one first, and all that the view emits. -/
def followAll (console : Console) : List Event → Console × List Emission
  | [] => (console, [])
  | event :: rest =>
    let (next, first) := console.follow event
    let (last, others) := next.followAll rest
    (last, first ++ others)

/-- The session after events, the first one first. -/
def sessionAfter (s : Session) (events : List Event) : Session :=
  events.foldl Event.session s

/-- The emissions of an event-driven view over a course of events. -/
def narrate (view : View) (s : Session) : List Event → List Emission
  | [] => []
  | event :: rest => view.emit (eventLines s event) ++ narrate view (event.session s) rest

/-- An event changes the session as it says, writes its own rows, and leaves the view in sync under
the same prompt. -/
structure Follows (console : Console) (event : Event) : Prop where
  session : (console.follow event).1.session = event.session console.session
  inSync : (console.follow event).1.view.InSync (console.follow event).1.session
  prompt : (console.follow event).1.view.prompt = console.view.prompt
  emissions : (console.follow event).2 = console.view.emit (eventLines console.session event)

section Follow

variable {s : Session} {view : View}

/-- What an event does to a console can be read off the session, the view and the rows. -/
theorem follows_of_eq {event : Event} {after : Session} {next : View} {emissions : List Emission}
    (hfollow : follow ⟨s, view⟩ event = (⟨after, next⟩, emissions))
    (hsession : after = event.session s) (hsync : next.InSync after)
    (hprompt : next.prompt = view.prompt) (hlines : emissions = view.emit (eventLines s event)) :
    Follows ⟨s, view⟩ event := by
  constructor
  · rw [hfollow]
    exact hsession
  · rw [hfollow]
    exact hsync
  · rw [hfollow]
    exact hprompt
  · rw [hfollow]
    exact hlines

theorem follow_of_apply {gesture : Intent} {after : Session} {calls : List ViewCall}
    (happly : gesture.apply s = (after, calls)) :
    follow ⟨s, view⟩ (.intent gesture) =
      (⟨after, (view.respondAll calls).1⟩, (view.respondAll calls).2) := by
  rw [follow, dispatch, happly]

theorem respondAll_cons (call : ViewCall) (rest : List ViewCall) :
    view.respondAll (call :: rest) =
      (((view.respond call).1.respondAll rest).1,
        (view.respond call).2 ++ ((view.respond call).1.respondAll rest).2) :=
  rfl

theorem respondAll_singleton (call : ViewCall) : view.respondAll [call] = view.respond call := by
  rw [respondAll_cons]
  exact congrArg (Prod.mk _) (List.append_nil _)

/-- An intent that only changes the session and has it rendered. -/
theorem follows_of_render {gesture : Intent} {after : Session}
    (happly : gesture.apply s = (after, [.ofSession after]))
    (hlines : view.transitionLines after.state after.history = eventLines s (.intent gesture)) :
    Follows ⟨s, view⟩ (.intent gesture) := by
  refine follows_of_eq (follow_of_apply happly) ?_ ?_ ?_ ?_
  · rw [Event.session, happly]
  · exact View.sync_inSync view after
  · rfl
  · rw [respondAll_singleton, ← hlines]
    rfl

/-- An intent that leaves the session alone and only has a row written. -/
theorem follows_of_remark {gesture : Intent} {call : ViewCall} {row : Line} (h : view.InSync s)
    (happly : gesture.apply s = (s, [call])) (hcall : view.respond call = (view, view.emit [row]))
    (hlines : eventLines s (.intent gesture) = [row]) : Follows ⟨s, view⟩ (.intent gesture) := by
  refine follows_of_eq (follow_of_apply happly) ?_ ?_ ?_ ?_
  · rw [Event.session, happly]
  · rw [respondAll_singleton, hcall]
    exact h
  · rw [respondAll_singleton, hcall]
  · rw [respondAll_singleton, hcall, hlines]

theorem follows_submit (h : view.InSync s) : Follows ⟨s, view⟩ (.intent .submit) := by
  refine follows_of_render rfl ?_
  rw [eventLines]
  cases hs : s.submit.1 with
  | true =>
      have hstep : s.submit.2 = s.send := Session.step_submit_of_accepted hs
      rw [hstep, h.lines_send hs]
      rfl
  | false =>
      have hstep : s.submit.2 = s := Session.step_submit_of_refused hs
      rw [hstep, h.lines_of_inputs s.state.inputs]
      rfl

theorem follows_selectEntry (h : view.InSync s) (index : Nat) :
    Follows ⟨s, view⟩ (.intent (.selectEntry index)) := by
  cases hentry : s.history.get? index with
  | none =>
      exact follows_of_remark h (by rw [Intent.apply, hentry]) rfl
        (by rw [eventLines, hentry]; rfl)
  | some entry =>
      have happly : (Intent.selectEntry index).apply s =
          (s.load entry, [.entryLoaded entry, .ofSession (s.load entry)]) := by
        rw [Intent.apply, hentry]
      refine follows_of_eq (follow_of_apply happly) ?_ ?_ ?_ ?_
      · rw [Event.session, happly]
      · exact View.sync_inSync _ (s.load entry)
      · rfl
      · rw [eventLines, hentry, respondAll_cons, respondAll_singleton]
        exact congrArg view.emit (h.lines_load entry)

/-- Handing an outcome over changes nothing that is shown. -/
theorem follows_copyResult (h : view.InSync s) : Follows ⟨s, view⟩ (.intent .copyResult) := by
  cases hout : s.state.outcome with
  | none =>
      exact follows_of_remark h (by rw [Intent.apply, hout]) rfl (by rw [eventLines, hout]; rfl)
  | some outcome =>
      exact follows_of_remark h (by rw [Intent.apply, hout]) rfl (by rw [eventLines, hout])

theorem follows_reply (h : view.InSync s) (d : Direction) (outcome : Outcome) (now : Instant) :
    Follows ⟨s, view⟩ (.reply d outcome now) := by
  cases hp : s.pending? d with
  | none =>
      have hstep : s.step (.complete d outcome now) = s := by
        rw [Session.step, Session.complete?, hp]
        rfl
      have hfollow : follow ⟨s, view⟩ (.reply d outcome now) = (⟨s, view⟩, []) := by
        rw [follow, complete?, Session.complete?, hp]
        rfl
      refine follows_of_eq hfollow hstep.symm h rfl ?_
      rw [eventLines, hp]
      rfl
  | some request =>
      have hstep : s.step (.complete d outcome now) = s.applyOutcome request outcome now := by
        rw [Session.step, Session.complete?, hp]
        rfl
      have hfollow : follow ⟨s, view⟩ (.reply d outcome now) =
          render ⟨s.applyOutcome request outcome now, view⟩ := by
        rw [follow, complete?, Session.complete?, hp]
        rfl
      refine follows_of_eq hfollow hstep.symm (View.sync_inSync view _) rfl ?_
      rw [eventLines, hp]
      exact congrArg view.emit (h.lines_applyOutcome request outcome now)

end Follow

/-- From a view in step, every event has the rows that the event is due, and the view is in step
again. -/
theorem follows {console : Console} (h : console.view.InSync console.session) (event : Event) :
    Follows console event := by
  obtain ⟨s, view⟩ := console
  cases event with
  | reply d outcome now => exact follows_reply h d outcome now
  | intent gesture =>
      cases gesture with
      | submit => exact follows_submit h
      | switchDirection d => exact follows_of_render rfl (h.lines_setDirection d)
      | editInput d text => exact follows_of_render rfl (h.lines_of_inputs _)
      | toggleHistory => exact follows_of_render rfl h.lines_toggleHistory
      | selectEntry index => exact follows_selectEntry h index
      | clearHistory => exact follows_of_render rfl h.lines_clearHistory
      | copyResult => exact follows_copyResult h

/-! ## Courses of events -/

/-- What an event-driven view emits depends on the view for the prompt alone. -/
theorem narrate_congr {next view : View} (hprompt : next.prompt = view.prompt) (s : Session)
    (events : List Event) : narrate next s events = narrate view s events := by
  induction events generalizing s with
  | nil => rfl
  | cons event rest ih =>
      have hemit (lines : List Line) : next.emit lines = view.emit lines := by
        rw [View.emit, View.emit, hprompt]
      rw [narrate, narrate, hemit, ih]

/-- A course of events changes the session as the events say, emits what an event-driven view emits,
and leaves the view in sync. -/
structure FollowsAll (console : Console) (events : List Event) : Prop where
  session : (console.followAll events).1.session = sessionAfter console.session events
  inSync : (console.followAll events).1.view.InSync (console.followAll events).1.session
  emissions : (console.followAll events).2 = narrate console.view console.session events

/-- So have all events of a course, one after another. -/
theorem followsAll {console : Console} (h : console.view.InSync console.session)
    (events : List Event) : FollowsAll console events := by
  induction events generalizing console with
  | nil => exact ⟨rfl, h, rfl⟩
  -- The first event leaves the view in sync, which is all that the rest of the course needs.
  | cons event rest ih =>
      have hfirst := follows h event
      have hrest := ih hfirst.inSync
      have hsession := hrest.session
      have hemissions := hrest.emissions
      rw [hfirst.session] at hsession hemissions
      rw [narrate_congr hfirst.prompt] at hemissions
      refine ⟨hsession, hrest.inSync, ?_⟩
      calc (console.followAll (event :: rest)).2
          = (console.follow event).2 ++ ((console.follow event).1.followAll rest).2 := rfl
        _ = narrate console.view console.session (event :: rest) := by
          rw [hfirst.emissions, hemissions, narrate]

/-- A view in sync with its session is an event-driven view. After every intent and every reply that
is shown, it is in sync again and has written the rows of that event and no others; hence over every
course of events it emits what an event-driven view emits. -/
theorem follow_eq_narrate {console : Console} (h : console.view.InSync console.session) :
    (∀ event, Follows console event) ∧ ∀ events, FollowsAll console events :=
  ⟨follows h, followsAll h⟩

/-- The rows of a course in which a request is answered after the history was cleared and a second
submission was refused. -/
theorem followAll_lateFailure :
    ({} : Console).view.InSync ({} : Console).session ∧
    (({} : Console).followAll [.intent (.editInput .sqlToMongo "SELECT 1"), .intent .submit,
      .intent .toggleHistory, .intent .clearHistory, .intent .submit,
      .reply .sqlToMongo (.failure "no answer") 7, .intent .clearHistory]).2 =
      [⟨[View.startedLine .sqlToMongo], none⟩, ⟨View.historyPanel {}, none⟩,
        ⟨View.resultLines (.failure "no answer") ++
          View.historyPanel ⟨[⟨.sqlToMongo, "SELECT 1", "no answer", 7⟩]⟩, none⟩,
        ⟨View.clearedLine :: View.historyPanel {}, none⟩] := by
  have h : ({} : Console).view.InSync ({} : Console).session := ⟨rfl, rfl, rfl⟩
  refine ⟨h, ?_⟩
  rw [((follow_eq_narrate h).2 _).emissions]
  rfl

end Console

end QueryBridge
