import Mathlib.Data.List.DropRight
import QueryBridge.Proofs.Session.Polls

/-!
# The history as a ledger

The journal of a run lists three kinds of events: a submission went out, a reply was applied, the
log was cleared. It says nothing of requests in flight, buffers or the log itself. From the journal
alone `recorded` computes what the history should hold: one entry for each reply since the last
clearing, with the text of the latest submission in the direction of the reply.

The history of every run is what its journal records, and each direction gets its texts converted in
the order of submission, none lost and none twice (`history_eq_recorded`). The invariant is
`Balanced`; it is kept by every change because a busy direction has one request in flight. It is
about what was submitted: polls are no events, and a poll sends what an earlier event submitted.
-/

set_option autoImplicit false

namespace QueryBridge.Session

/-! ## Journals -/

/-- An event of a run that concerns the history. -/
inductive Event where
  /-- A submission went out. -/
  | submitted (request : Request)
  /-- A reply was applied. -/
  | answered (d : Direction) (outcome : Outcome) (now : Instant)
  /-- The log was cleared. -/
  | cleared
  deriving DecidableEq, Repr

/-- The event of a moment. A submission carries the buffer of the selected direction as it is at
that moment. A reply is applied where a request of its direction is in flight. -/
def Moment.event? (m : Moment) : Option Event :=
  match m.op with
  | .submit =>
    if m.before.submit.1 then
      some (.submitted ⟨m.before.state.direction, m.before.state.activeInput⟩)
    else none
  | .complete d outcome now =>
    if m.before.inFlightOf d = [] then none else some (.answered d outcome now)
  | .clearHistory => some .cleared
  | _ => none

/-- The journal of a run: its events, the first one first. -/
def journal (s : Session) (ops : List Op) : List Event :=
  (s.moments ops).filterMap Moment.event?

theorem journal_concat (s : Session) (ops : List Op) (op : Op) :
    s.journal (ops ++ [op]) = s.journal ops ++ (Moment.event? ⟨s.run ops, op⟩).toList := by
  rw [journal, moments_concat, List.filterMap_append]
  cases h : Moment.event? ⟨s.run ops, op⟩ <;> simp [journal, h]

namespace Event

/-- The request that went out. -/
def request? : Event → Option Request
  | submitted request => some request
  | _ => none

/-- Whether the entries of the log stay, which they do unless it was cleared. -/
def keepsLog : Event → Bool
  | cleared => false
  | _ => true

end Event

/-! ## What a journal records -/

/-- The requests that went out. -/
def submissions (events : List Event) : List Request :=
  events.filterMap Event.request?

/-- The texts of the requests of a direction. -/
def textsOf (d : Direction) (requests : List Request) : List String :=
  (requests.filter (·.direction == d)).map (·.text)

/-- The inputs of the entries of a direction. -/
def inputsOf (d : Direction) (entries : List HistoryEntry) : List String :=
  (entries.filter (·.direction == d)).map (·.input)

/-- The text of the latest submission in a direction. -/
def lastText (d : Direction) (events : List Event) : String :=
  (textsOf d (submissions events)).getLastD ""

/-- The attempt that an event finishes after earlier ones: a reply answers the latest submission in
its direction. -/
def Event.attempt? (earlier : List Event) : Event → Option HistoryEntry
  | answered d outcome now => some ⟨d, lastText d earlier, outcome.text, now⟩
  | _ => none

/-- The attempts that events finish after earlier ones. -/
def attempts (earlier : List Event) : List Event → List HistoryEntry
  | [] => []
  | event :: later => (event.attempt? earlier).toList ++ attempts (earlier ++ [event]) later

/-- All attempts that a journal finishes. -/
def finished (events : List Event) : List HistoryEntry :=
  attempts [] events

/-- The attempts that a journal finishes after the last clearing of the log. -/
def recorded (events : List Event) : List HistoryEntry :=
  attempts (events.rdropWhile Event.keepsLog) (events.rtakeWhile Event.keepsLog)

/-- An answer is matched with a request by what came before it, so later events leave the attempts
of earlier ones alone. -/
theorem attempts_concat (earlier later : List Event) (event : Event) :
    attempts earlier (later ++ [event]) =
      attempts earlier later ++ (event.attempt? (earlier ++ later)).toList := by
  induction later generalizing earlier with
  | nil => simp [attempts]
  | cons first later ih => simp [attempts, ih]

theorem finished_concat (events : List Event) (event : Event) :
    finished (events ++ [event]) = finished events ++ (event.attempt? events).toList :=
  attempts_concat [] events event

/-- An event that does not clear the log adds the entry of the attempt that it finishes, if it
does. -/
theorem recorded_concat (events : List Event) (event : Event) (h : event.keepsLog = true) :
    recorded (events ++ [event]) = recorded events ++ (event.attempt? events).toList := by
  rw [recorded, List.rdropWhile_concat_pos _ _ _ h, List.rtakeWhile_concat_pos _ _ _ h,
    attempts_concat, List.rdropWhile_append_rtakeWhile]
  rfl

theorem recorded_concat_cleared (events : List Event) : recorded (events ++ [.cleared]) = [] := by
  rw [recorded, List.rtakeWhile_concat_neg _ _ _ (by simp [Event.keepsLog])]
  rfl

theorem submissions_concat (events : List Event) (event : Event) :
    submissions (events ++ [event]) = submissions events ++ event.request?.toList := by
  rw [submissions, List.filterMap_append]
  cases h : event.request? <;> simp [submissions, h]

theorem textsOf_append (d : Direction) (xs ys : List Request) :
    textsOf d (xs ++ ys) = textsOf d xs ++ textsOf d ys := by
  rw [textsOf, List.filter_append, List.map_append]
  rfl

theorem inputsOf_append (d : Direction) (xs ys : List HistoryEntry) :
    inputsOf d (xs ++ ys) = inputsOf d xs ++ inputsOf d ys := by
  rw [inputsOf, List.filter_append, List.map_append]
  rfl

/-! ## The invariant -/

/-- A session agrees with the journal that led to it. -/
structure Balanced (s : Session) (events : List Event) : Prop where
  /-- The log holds what the journal records. -/
  log : s.history.entries = recorded events
  /-- The calls made and those still to be made are what was submitted. -/
  submitted : s.submitted = submissions events
  /-- In each direction the texts that were submitted are those of the finished attempts and then
  those in flight. -/
  texts : ∀ d, textsOf d s.submitted = inputsOf d (finished events) ++ textsOf d s.inFlight

theorem balanced_new : Balanced new [] :=
  ⟨rfl, rfl, fun _ => rfl⟩

/-- An accepted submission adds its request to those submitted and to those in flight, so the
accounts still agree. -/
theorem Balanced.send {s : Session} {events : List Event} (h : s.Balanced events) :
    s.send.Balanced (events ++ [.submitted ⟨s.state.direction, s.state.activeInput⟩]) where
  log := by
    rw [recorded_concat _ _ rfl, ← h.log]
    exact (List.append_nil _).symm
  submitted := by
    rw [submissions_concat, ← h.submitted]
    exact submitted_send s
  -- The same text joins what was submitted and the requests in flight.
  texts := by
    intro d
    rw [finished_concat, submitted_send]
    simp only [Session.send, textsOf_append, h.texts d, Event.attempt?, Option.toList_none,
      List.append_nil, List.append_assoc]

/-- The request in flight of a direction is the latest submission there. -/
theorem Balanced.lastText {s : Session} {events : List Event} (h : s.Balanced events)
    {d : Direction} {request : Request} (hq : s.inFlightOf d = [request]) :
    lastText d events = request.text := by
  have hflight : textsOf d s.inFlight = [request.text] := congrArg (List.map Request.text) hq
  rw [Session.lastText, ← h.submitted, h.texts, hflight, List.getLastD_concat]

/-- A reply moves the request that it answers from those in flight to those finished, and logs
it. -/
theorem Balanced.applyOutcome {s : Session} {events : List Event} (h : s.Balanced events)
    {d : Direction} {request : Request} (hq : s.inFlightOf d = [request]) (outcome : Outcome)
    (now : Instant) :
    (s.applyOutcome request outcome now).Balanced (events ++ [.answered d outcome now]) := by
  have hdir : request.direction = d :=
    direction_of_mem_inFlightOf (hq ▸ List.mem_singleton_self request)
  -- The latest submission of the direction is the one in flight, so the journal knows the text of
  -- the entry.
  have hentry : Event.attempt? events (.answered d outcome now) =
      some (entryOf request outcome now) := by
    rw [Event.attempt?, h.lastText hq, ← hdir]
    rfl
  refine ⟨?_, ?_, ?_⟩
  · rw [recorded_concat _ _ rfl, hentry, ← h.log]
    rfl
  · rw [submissions_concat, submitted_applyOutcome]
    exact h.submitted.trans (List.append_nil _).symm
  · intro e
    have hflight : textsOf e (s.applyOutcome request outcome now).inFlight =
        if e = d then [] else textsOf e s.inFlight := by
      rw [textsOf, ← inFlightOf, inFlightOf_applyOutcome, hdir]
      by_cases he : e = d
      · rw [if_pos he, if_pos he, he, hq]
        rfl
      · rw [if_neg he, if_neg he]
        rfl
    rw [submitted_applyOutcome, h.texts, finished_concat, hentry, inputsOf_append, hflight]
    by_cases he : e = d
    · -- The text moves from the requests in flight to the finished attempts.
      subst he
      rw [if_pos rfl, List.append_nil, textsOf, ← inFlightOf, hq]
      simp [inputsOf, entryOf, hdir]
    · rw [if_neg he]
      simp [inputsOf, entryOf, hdir, Ne.symm he]

/-- Clearing empties the log, and the record of the journal with it. -/
theorem Balanced.clear {s : Session} {events : List Event} (h : s.Balanced events) :
    s.clearHistory.Balanced (events ++ [.cleared]) where
  log := by
    rw [recorded_concat_cleared]
    rfl
  submitted := by
    rw [submissions_concat]
    exact h.submitted.trans (List.append_nil _).symm
  texts := by
    intro d
    rw [finished_concat]
    exact (h.texts d).trans (by simp [Event.attempt?, clearHistory])

/-- A change that makes no event, and touches neither the log nor a request, leaves the accounts in
agreement. -/
theorem Balanced.frame {s t : Session} {events : List Event} (h : s.Balanced events)
    (hlog : t.history = s.history) (hsubmitted : t.submitted = s.submitted)
    (hflight : t.inFlight = s.inFlight) : t.Balanced (events ++ []) := by
  rw [List.append_nil]
  exact ⟨hlog ▸ h.log, hsubmitted ▸ h.submitted,
    fun d => by rw [hsubmitted, hflight]; exact h.texts d⟩

/-- Every change keeps a session in agreement with its journal. -/
theorem Balanced.step {s : Session} {events : List Event} (h : s.Balanced events)
    (hone : s.OnePerBusy) (op : Op) :
    (s.step op).Balanced (events ++ (Moment.event? ⟨s, op⟩).toList) := by
  cases op with
  | submit =>
      cases hs : s.submit.1 with
      | true =>
          rw [step_submit_of_accepted hs]
          simpa [Moment.event?, hs] using h.send
      | false =>
          rw [step_submit_of_refused hs]
          simpa [Moment.event?, hs] using h
  | complete d outcome now =>
      cases hq : s.inFlightOf d with
      | nil =>
          rw [step_complete_of_nil hq]
          simpa [Moment.event?, hq] using h
      | cons request rest =>
          have hrest : rest = [] := hone.rest_eq_nil hq
          subst hrest
          rw [step_complete_of_cons hq]
          simpa [Moment.event?, hq] using h.applyOutcome hq outcome now
  | clearHistory => exact h.clear
  -- The other changes are no events and touch neither the log, what was submitted nor the requests
  -- in flight.
  | poll => exact h.frame rfl (submitted_poll s) rfl
  | setDirection d => exact h.frame rfl rfl rfl
  | edit d text => exact h.frame rfl rfl rfl
  | toggleHistory => exact h.frame rfl rfl rfl
  | load entry => exact h.frame rfl rfl rfl

/-- After every run the session agrees with the journal of the run. -/
theorem balanced_run (ops : List Op) : (new.run ops).Balanced (new.journal ops) := by
  -- From the end of the run, since a reply answers what was submitted before it.
  induction ops using List.reverseRecOn with
  | nil => exact balanced_new
  | append_singleton ops op ih =>
      rw [run_concat, journal_concat]
      exact ih.step (Reachable.onePerBusy ⟨ops, rfl⟩) op

/-! ## Nothing is lost, doubled or reordered -/

/-- As many requests were submitted as attempts are finished and requests are in flight. -/
theorem Balanced.count {s : Session} {events : List Event} (h : s.Balanced events) :
    (submissions events).length = (finished events).length + s.pendingCount := by
  have side (d : Direction) : (s.submitted.filter (·.direction == d)).length =
      ((finished events).filter (·.direction == d)).length +
        (s.inFlight.filter (·.direction == d)).length := by
    have hlen := congrArg List.length (h.texts d)
    simpa only [textsOf, inputsOf, List.length_append, List.length_map] using hlen
  rw [pendingCount, ← h.submitted, length_eq_add_of_direction Request.direction s.submitted,
    length_eq_add_of_direction HistoryEntry.direction (finished events),
    length_eq_add_of_direction Request.direction s.inFlight, side, side]
  omega

/-- The text of the request in flight of a direction, if there is one. -/
theorem OnePerBusy.textsOf_inFlight {s : Session} (h : s.OnePerBusy) (d : Direction) :
    textsOf d s.inFlight = ((s.pending? d).map (·.text)).toList := by
  rw [textsOf, ← inFlightOf, pending?_eq_head?]
  cases hq : s.inFlightOf d with
  | nil => rfl
  | cons request rest =>
      rw [h.rest_eq_nil hq]
      rfl

/-- The texts that the service has received in a direction: those of the finished attempts, and that
of the request in flight unless it waits for its first poll. -/
theorem Balanced.textsOf_calls {s : Session} {events : List Event} (h : s.Balanced events)
    (hs : s.Reachable) (d : Direction) :
    textsOf d s.calls = inputsOf d (finished events) ++
      if s.unsentOf d = [] then ((s.pending? d).map (·.text)).toList else [] := by
  have hsplit : textsOf d s.calls ++ (s.unsentOf d).map (·.text) =
      inputsOf d (finished events) ++ textsOf d s.inFlight :=
    (textsOf_append d s.calls s.unsent).symm.trans (h.texts d)
  rw [← hs.onePerBusy.textsOf_inFlight]
  by_cases hsent : s.unsentOf d = []
  · rw [if_pos hsent, ← hsplit, hsent]
    exact (List.append_nil _).symm
  -- What is still to be sent is all that is in flight there.
  · have hall : (s.unsentOf d).map (·.text) = textsOf d s.inFlight :=
      congrArg (List.map (·.text)) ((hs.unsentOf_eq d).resolve_left hsent)
    rw [if_neg hsent, List.append_nil]
    exact List.append_cancel_right (hall ▸ hsplit)

end QueryBridge.Session
