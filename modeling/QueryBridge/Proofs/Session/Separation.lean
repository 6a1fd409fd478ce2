import QueryBridge.Proofs.Session.Commute

/-!
# The directions are separate

The two directions share a screen, a log, a list of requests in flight and a service. What one of
them sees of a session is its buffer, its flag, its requests and its entries, the selected direction
and the panel (`AlikeIn`). What it sees of a run is `courseOf`: all changes but the edits and the
replies of the other direction, and without the times of replies. It does not see polls either,
which reach the requests of both directions; so of its calls it sees what they are once all are
polled.

A change that a direction does not see changes nothing of what it sees, and a change that it does
see acts alike on sessions that are alike to it. So every run is to a direction what its course is
(`run_alikeIn_courseOf`), and two runs with one course end alike, with the same answers to the
submissions made in that direction (`alikeIn_of_courseOf_eq`).
-/

set_option autoImplicit false

namespace QueryBridge.Session

/-! ## What a direction sees -/

/-- Whether a direction sees a change: all but the edits and the replies of the other one, and
polls. -/
def Op.concerns (d : Direction) : Op → Bool
  | .edit e _ => e == d
  | .complete e _ _ => e == d
  | .poll => false
  | _ => true

/-- The change without the time of a reply or of an entry. -/
def Op.undated : Op → Op
  | .complete d outcome _ => .complete d outcome 0
  | .load entry => .load entry.undated
  | op => op

/-- What a direction sees of a run. -/
def courseOf (d : Direction) (ops : List Op) : List Op :=
  (ops.filter (·.concerns d)).map Op.undated

/-- The entries of a direction in a log, without their times. -/
def entriesOf (d : Direction) (log : History) : List HistoryEntry :=
  log.undated.filter (·.direction == d)

/-- The sessions are alike in what a direction sees of them. -/
structure AlikeIn (d : Direction) (s t : Session) : Prop where
  input : s.state.input d = t.state.input d
  isBusy : s.state.isBusy d = t.state.isBusy d
  inFlight : s.inFlightOf d = t.inFlightOf d
  /-- The calls of the service are the same once the requests in flight have been polled. -/
  calls : s.poll.callsOf d = t.poll.callsOf d
  entries : entriesOf d s.history = entriesOf d t.history
  direction : s.state.direction = t.state.direction
  historyVisible : s.state.historyVisible = t.state.historyVisible

/-- What a direction sees of the answer to a moment's submission: that there was one, and the answer
itself where the direction was selected. -/
def Moment.answerTo? (d : Direction) (m : Moment) : Option (Option Bool) :=
  m.answer?.map fun answer => if m.before.state.direction = d then some answer else none

/-- What a direction sees of the answers to the submissions of a run. -/
def answersTo (d : Direction) (s : Session) (ops : List Op) : List (Option Bool) :=
  (s.moments ops).filterMap (Moment.answerTo? d)

theorem answersTo_cons (d : Direction) (s : Session) (op : Op) (ops : List Op) :
    s.answersTo d (op :: ops) =
      (Moment.answerTo? d ⟨s, op⟩).toList ++ (s.step op).answersTo d ops := by
  rw [answersTo, moments, List.filterMap_cons]
  cases Moment.answerTo? d ⟨s, op⟩ <;> rfl

theorem entriesOf_append (d : Direction) (log : History) (entry : HistoryEntry) :
    entriesOf d (log.append entry) =
      entriesOf d log ++ if entry.direction = d then [entry.undated] else [] := by
  rw [entriesOf, History.undated_append, List.filter_append]
  by_cases h : entry.direction = d <;> simp [entriesOf, HistoryEntry.undated, h]

/-- Once the session is polled, the service has been called for every request that was submitted. -/
theorem callsOf_poll_eq (d : Direction) (s : Session) :
    s.poll.callsOf d = s.submitted.filter (·.direction == d) :=
  rfl

/-- A request that is accepted is one more call of its direction once it is polled. -/
theorem callsOf_poll_send (d : Direction) (s : Session) :
    s.send.poll.callsOf d = s.poll.callsOf d ++
      if d = s.state.direction then [⟨s.state.direction, s.state.activeInput⟩] else [] := by
  rw [callsOf_poll_eq, callsOf_poll_eq, submitted_send, List.filter_append]
  by_cases h : d = s.state.direction
  · simp [h]
  · simp [h, Ne.symm h]

/-- A reply adds no call to those that a poll makes; it comes to one that was made. -/
theorem callsOf_poll_applyOutcome (d : Direction) (s : Session) (request : Request)
    (outcome : Outcome) (now : Instant) :
    (s.applyOutcome request outcome now).poll.callsOf d = s.poll.callsOf d := by
  rw [callsOf_poll_eq, callsOf_poll_eq, submitted_applyOutcome]

namespace AlikeIn

variable {d : Direction} {s t u : Session}

theorem refl (d : Direction) (s : Session) : AlikeIn d s s :=
  ⟨rfl, rfl, rfl, rfl, rfl, rfl, rfl⟩

theorem symm (h : AlikeIn d s t) : AlikeIn d t s :=
  ⟨h.input.symm, h.isBusy.symm, h.inFlight.symm, h.calls.symm, h.entries.symm, h.direction.symm,
    h.historyVisible.symm⟩

theorem trans (h : AlikeIn d s t) (k : AlikeIn d t u) : AlikeIn d s u :=
  ⟨h.input.trans k.input, h.isBusy.trans k.isBusy, h.inFlight.trans k.inFlight,
    h.calls.trans k.calls, h.entries.trans k.entries, h.direction.trans k.direction,
    h.historyVisible.trans k.historyVisible⟩

end AlikeIn

/-! ## Changes that a direction does not see -/

section Unseen

variable {d : Direction} {s : Session}

/-- Editing the other buffer is not seen in a direction. -/
theorem alikeIn_edit_of_ne {e : Direction} (h : d ≠ e) (text : String) :
    AlikeIn d (s.edit e text) s where
  input := (PerDirection.get_set _ _ _ _).trans (if_neg h)
  isBusy := rfl
  inFlight := rfl
  calls := rfl
  entries := rfl
  direction := rfl
  historyVisible := rfl

theorem alikeIn_send_of_ne (h : d ≠ s.state.direction) : AlikeIn d s.send s where
  input := rfl
  isBusy := by rw [isBusy_send, if_neg h]
  inFlight := by rw [inFlightOf_send, if_neg h, List.append_nil]
  calls := by rw [callsOf_poll_send, if_neg h, List.append_nil]
  entries := rfl
  direction := rfl
  historyVisible := rfl

theorem alikeIn_applyOutcome_of_ne {request : Request} (h : d ≠ request.direction)
    (outcome : Outcome) (now : Instant) : AlikeIn d (s.applyOutcome request outcome now) s where
  input := rfl
  isBusy := by rw [isBusy_applyOutcome, if_neg h]
  inFlight := by rw [inFlightOf_applyOutcome, if_neg h]
  calls := callsOf_poll_applyOutcome d s request outcome now
  entries := by
    have hdir : (entryOf request outcome now).direction ≠ d := Ne.symm h
    rw [applyOutcome, entriesOf_append, if_neg hdir, List.append_nil]
  direction := rfl
  historyVisible := rfl

/-- A poll sends requests of either direction and accepts none. -/
theorem alikeIn_poll (d : Direction) (s : Session) : AlikeIn d s.poll s where
  input := rfl
  isBusy := rfl
  inFlight := rfl
  calls := by rw [callsOf_poll_eq, callsOf_poll_eq, submitted_poll]
  entries := rfl
  direction := rfl
  historyVisible := rfl

/-- Whatever is submitted in one direction, the other one does not see it. -/
theorem alikeIn_submit_of_ne (h : d ≠ s.state.direction) : AlikeIn d (s.step .submit) s := by
  cases hs : s.submit.1 with
  | true =>
      rw [step_submit_of_accepted hs]
      exact alikeIn_send_of_ne h
  | false =>
      rw [step_submit_of_refused hs]
      exact AlikeIn.refl d s

/-- A change that does not concern a direction is not seen in it. -/
theorem alikeIn_step_of_not_concerns {op : Op} (h : op.concerns d = false) :
    AlikeIn d (s.step op) s := by
  cases op with
  | edit e text =>
      have hne : d ≠ e := Ne.symm (beq_eq_false_iff_ne.1 h)
      exact alikeIn_edit_of_ne hne text
  | complete e outcome now =>
      have hne : d ≠ e := Ne.symm (beq_eq_false_iff_ne.1 h)
      cases hq : s.inFlightOf e with
      | nil =>
          rw [step_complete_of_nil hq]
          exact AlikeIn.refl d s
      | cons request rest =>
          have hdir : request.direction = e := direction_of_inFlightOf_cons hq
          rw [step_complete_of_cons hq]
          exact alikeIn_applyOutcome_of_ne (hdir ▸ hne) outcome now
  | poll => exact alikeIn_poll d s
  -- A direction sees all other changes.
  | setDirection e => exact Bool.noConfusion h
  | submit => exact Bool.noConfusion h
  | toggleHistory => exact Bool.noConfusion h
  | clearHistory => exact Bool.noConfusion h
  | load entry => exact Bool.noConfusion h

theorem answerTo?_of_not_concerns {op : Op} (h : op.concerns d = false) :
    Moment.answerTo? d ⟨s, op⟩ = none := by
  cases op with
  | submit => exact Bool.noConfusion h
  | poll => rfl
  | edit e text => rfl
  | complete e outcome now => rfl
  | setDirection e => rfl
  | toggleHistory => rfl
  | clearHistory => rfl
  | load entry => rfl

end Unseen

/-! ## Changes that a direction sees -/

namespace AlikeIn

variable {d : Direction} {s t : Session}

/-- A direction that is selected gets the same answer in sessions that are alike to it. -/
theorem submit_fst (h : AlikeIn d s t) (hd : s.state.direction = d) : s.submit.1 = t.submit.1 := by
  have ht : t.state.direction = d := h.direction ▸ hd
  rw [Session.submit_fst, Session.submit_fst, SessionState.submitEnabled,
    SessionState.submitEnabled, SessionState.activeInput, SessionState.activeInput, hd, ht,
    h.isBusy, h.input]

/-- Requests that go out from alike sessions have the same direction and the same text. -/
theorem send (h : AlikeIn d s t) : AlikeIn d s.send t.send := by
  by_cases hd : d = s.state.direction
  · have ht : d = t.state.direction := h.direction ▸ hd
    -- The buffer that goes out is the one that the direction sees.
    have hsent : (⟨s.state.direction, s.state.activeInput⟩ : Request) =
        ⟨t.state.direction, t.state.activeInput⟩ := by
      rw [SessionState.activeInput, SessionState.activeInput, ← hd, ← ht, h.input]
    exact {
      input := h.input
      isBusy := by rw [isBusy_send, isBusy_send, if_pos hd, if_pos ht]
      inFlight := by
        rw [inFlightOf_send, inFlightOf_send, if_pos hd, if_pos ht, h.inFlight, hsent]
      calls := by rw [callsOf_poll_send, callsOf_poll_send, if_pos hd, if_pos ht, h.calls, hsent]
      entries := h.entries
      direction := h.direction
      historyVisible := h.historyVisible }
  · have ht : d ≠ t.state.direction := h.direction ▸ hd
    exact (alikeIn_send_of_ne hd).trans (h.trans (alikeIn_send_of_ne ht).symm)

/-- Alike sessions accept the same submissions of the direction, and remain alike. -/
theorem submit (h : AlikeIn d s t) : AlikeIn d (s.step .submit) (t.step .submit) := by
  by_cases hd : d = s.state.direction
  · have hsame := h.submit_fst hd.symm
    cases hs : s.submit.1 with
    | true =>
        rw [step_submit_of_accepted hs, step_submit_of_accepted (hsame ▸ hs)]
        exact h.send
    | false =>
        rw [step_submit_of_refused hs, step_submit_of_refused (hsame ▸ hs)]
        exact h
  -- The answers may differ, but no answer shows in this direction.
  · have ht : d ≠ t.state.direction := h.direction ▸ hd
    exact (alikeIn_submit_of_ne hd).trans (h.trans (alikeIn_submit_of_ne ht).symm)

/-- The same reply leaves alike sessions alike, whenever it arrives. -/
theorem complete (h : AlikeIn d s t) (outcome : Outcome) (now later : Instant) :
    AlikeIn d (s.step (.complete d outcome now)) (t.step (.complete d outcome later)) := by
  cases hq : s.inFlightOf d with
  | nil =>
      rw [step_complete_of_nil hq, step_complete_of_nil (h.inFlight ▸ hq)]
      exact h
  | cons request rest =>
      have hentry : (entryOf request outcome now).undated =
          (entryOf request outcome later).undated := rfl
      rw [step_complete_of_cons hq, step_complete_of_cons (h.inFlight ▸ hq)]
      exact {
        input := h.input
        isBusy := by rw [isBusy_applyOutcome, isBusy_applyOutcome, h.isBusy]
        inFlight := by rw [inFlightOf_applyOutcome, inFlightOf_applyOutcome, h.inFlight]
        calls := by rw [callsOf_poll_applyOutcome, callsOf_poll_applyOutcome, h.calls]
        entries := by
          rw [applyOutcome, applyOutcome, entriesOf_append, entriesOf_append, h.entries, hentry]
          rfl
        direction := h.direction
        historyVisible := h.historyVisible }

/-- Loading the same entry, with whatever time, leaves alike sessions alike. -/
theorem load (h : AlikeIn d s t) (entry : HistoryEntry) :
    AlikeIn d (s.load entry) (t.load entry.undated) where
  input := by
    -- Loading writes the one buffer that the entry is of, whatever its time.
    have hget (u : Session) (loaded : HistoryEntry) : (u.load loaded).state.input d =
        if d = loaded.direction then loaded.input else u.state.input d :=
      PerDirection.get_set _ _ _ _
    rw [hget, hget, h.input]
    rfl
  isBusy := h.isBusy
  inFlight := h.inFlight
  calls := h.calls
  entries := h.entries
  direction := rfl
  historyVisible := rfl

theorem edit (h : AlikeIn d s t) (e : Direction) (text : String) :
    AlikeIn d (s.edit e text) (t.edit e text) where
  input := by
    have hget (u : Session) : (u.edit e text).state.input d =
        if d = e then text else u.state.input d := PerDirection.get_set _ _ _ _
    rw [hget, hget, h.input]
  isBusy := h.isBusy
  inFlight := h.inFlight
  calls := h.calls
  entries := h.entries
  direction := h.direction
  historyVisible := h.historyVisible

/-- A change that a direction sees acts alike on sessions that are alike to it, at any time. -/
theorem step (h : AlikeIn d s t) {op : Op} (hop : op.concerns d = true) :
    AlikeIn d (s.step op) (t.step op.undated) := by
  cases op with
  | submit => exact h.submit
  | poll => exact Bool.noConfusion hop
  | complete e outcome now =>
      have he : e = d := beq_iff_eq.1 hop
      subst he
      exact h.complete outcome now 0
  | load entry => exact h.load entry
  | edit e text => exact h.edit e text
  | setDirection e => exact { h with direction := rfl }
  | toggleHistory => exact { h with historyVisible := congrArg (!·) h.historyVisible }
  | clearHistory => exact { h with entries := rfl }

/-- Alike sessions give the same answers in the direction. -/
theorem answerTo? (h : AlikeIn d s t) (op : Op) :
    Moment.answerTo? d ⟨s, op⟩ = Moment.answerTo? d ⟨t, op.undated⟩ := by
  cases op with
  | submit =>
      have ht := h.direction
      by_cases hd : s.state.direction = d
      · simp [Moment.answerTo?, Moment.answer?, Op.undated, hd, ← ht, h.submit_fst hd]
      · simp [Moment.answerTo?, Moment.answer?, Op.undated, hd, ← ht]
  | poll => rfl
  | edit e text => rfl
  | complete e outcome now => rfl
  | setDirection e => rfl
  | toggleHistory => rfl
  | clearHistory => rfl
  | load entry => rfl

end AlikeIn

/-! ## Runs -/

/-- To a direction, a run is what its course is. -/
theorem run_alikeIn_courseOf {d : Direction} {s t : Session} (h : AlikeIn d s t) (ops : List Op) :
    AlikeIn d (s.run ops) (t.run (courseOf d ops)) ∧
      s.answersTo d ops = t.answersTo d (courseOf d ops) := by
  induction ops generalizing s t with
  | nil => exact ⟨h, rfl⟩
  | cons op ops ih =>
      cases hop : op.concerns d with
      -- The course takes the same change, at another time at most.
      | true =>
          have hcourse : courseOf d (op :: ops) = op.undated :: courseOf d ops := by
            simp [courseOf, hop]
          obtain ⟨hrun, hanswers⟩ := ih (h.step hop)
          rw [hcourse, answersTo_cons, answersTo_cons, h.answerTo? op, hanswers]
          exact ⟨hrun, rfl⟩
      -- The course leaves the change out.
      | false =>
          have hcourse : courseOf d (op :: ops) = courseOf d ops := by
            simp [courseOf, hop]
          obtain ⟨hrun, hanswers⟩ := ih ((alikeIn_step_of_not_concerns hop).trans h)
          rw [hcourse, answersTo_cons, answerTo?_of_not_concerns hop, hanswers]
          exact ⟨hrun, rfl⟩

/-- A run in which the other direction has nothing to submit. -/
def quietRun : List Op :=
  [.edit .sqlToMongo "SELECT 1", .submit, .setDirection .mongoToSql, .submit,
    .setDirection .sqlToMongo, .submit, .complete .sqlToMongo (.success "db.t.find()") 4]

/-- A run in which the other direction submits and fails, polls come in between and replies
later. -/
def eventfulRun : List Op :=
  [.edit .sqlToMongo "SELECT 1", .submit, .edit .mongoToSql "db.a.find()",
    .setDirection .mongoToSql, .submit, .complete .mongoToSql (.failure "no answer") 3, .poll,
    .setDirection .sqlToMongo, .submit, .complete .sqlToMongo (.success "db.t.find()") 8]

end QueryBridge.Session
