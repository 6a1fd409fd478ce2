import QueryBridge.Proofs.Session.Polls

/-!
# The moment at which a reply arrives

While a request of a direction is in flight, the user may edit, select a direction, toggle the
panel, and submit in the other direction. None of these reads or writes what the reply will write,
so a reply trades places with each of them (`step_complete_comm`), with a poll, and with any
sequence of them (`run_complete_comm`). Two replies trade places as well, but for what tells them
apart by design: the order of their entries in the log and the outcome that stays on the screen.

Entries carry the time of their arrival, which is all that is left of the moment
(`arrival_irrelevant`). What is polled before a reply and what after it is not for the user to say,
so the calls of the service are compared both with the polls at the same places and, wherever they
stand, as they are once all that is in flight has been polled.
-/

set_option autoImplicit false

namespace QueryBridge

/-- The entry without its time. -/
def HistoryEntry.undated (entry : HistoryEntry) : HistoryEntry :=
  { entry with createdAt := 0 }

/-- The entries of a log without their times. -/
def History.undated (log : History) : List HistoryEntry :=
  log.entries.map HistoryEntry.undated

@[simp] theorem History.undated_append (log : History) (entry : HistoryEntry) :
    (log.append entry).undated = log.undated ++ [entry.undated] := by
  rw [undated, entries_append, List.map_append]
  rfl

namespace Session

/-- The sessions differ in the times of their entries at most, and in what of their requests has
been polled. -/
structure AlikeButTimes (s t : Session) : Prop where
  state : s.state = t.state
  log : s.history.undated = t.history.undated
  inFlight : s.inFlight = t.inFlight
  /-- The calls of the service are the same once the requests in flight have been polled. -/
  calls : s.poll.calls = t.poll.calls

theorem AlikeButTimes.trans {s t u : Session} (h : AlikeButTimes s t) (k : AlikeButTimes t u) :
    AlikeButTimes s u :=
  ⟨h.state.trans k.state, h.log.trans k.log, h.inFlight.trans k.inFlight, h.calls.trans k.calls⟩

/-- Sessions that are one once polled differ in what has been polled at most. -/
theorem AlikeButTimes.of_poll_eq {s t : Session} (h : s.poll = t.poll) : AlikeButTimes s t :=
  -- A poll changes no other field than those about calls.
  have hstate : s.poll.state = t.poll.state := congrArg Session.state h
  have hlog : s.poll.history.undated = t.poll.history.undated := congrArg (·.history.undated) h
  have hflight : s.poll.inFlight = t.poll.inFlight := congrArg Session.inFlight h
  ⟨hstate, hlog, hflight, congrArg Session.calls h⟩

/-- A moment that has nothing to do with the request in flight of a direction: an edit, a selection,
a toggle of the panel, a submission while the other direction is selected, or a poll. -/
def Moment.IsAside (d : Direction) (m : Moment) : Prop :=
  match m.op with
  | .edit _ _ | .setDirection _ | .toggleHistory | .poll => True
  | .submit => m.before.state.direction ≠ d
  | .complete _ _ _ | .clearHistory | .load _ => False

instance (d : Direction) : DecidablePred (Moment.IsAside d)
  | ⟨_, .edit _ _⟩ | ⟨_, .setDirection _⟩ | ⟨_, .toggleHistory⟩ | ⟨_, .poll⟩ => isTrue trivial
  | ⟨before, .submit⟩ => inferInstanceAs (Decidable (before.state.direction ≠ d))
  | ⟨_, .complete _ _ _⟩ | ⟨_, .clearHistory⟩ | ⟨_, .load _⟩ => isFalse id

/-! ## One change -/

section Step

variable {s : Session} {d : Direction} {op : Op}

/-- A reply reaches no more requests than are waiting to be sent. -/
theorem reach_le_length (d : Direction) (s : Session) : s.reach d ≤ s.unsent.length := by
  rw [reach]
  cases hfound : s.unsent.findIdx? (·.direction == d) with
  | none => exact Nat.zero_le _
  | some i => exact (List.findIdx?_eq_some_iff_findIdx_eq.1 hfound).1

/-- A submission in one direction does not move the request of the other one among those to be
polled. -/
theorem reach_send (h : s.state.direction ≠ d) : s.send.reach d = s.reach d := by
  rw [reach, reach, send, List.findIdx?_append]
  have hnone : [(⟨s.state.direction, s.state.activeInput⟩ : Request)].findIdx?
      (·.direction == d) = none := by
    simp [List.findIdx?_cons, h]
  rw [hnone, Option.map_none, Option.or_none]

/-- A submission in one direction and a reply of the other one trade places. -/
theorem applyOutcome_send {request : Request} (h : s.state.direction ≠ request.direction)
    (outcome : Outcome) (now : Instant) :
    s.send.applyOutcome request outcome now = (s.applyOutcome request outcome now).send := by
  have hbusy : (s.state.busy.set s.state.direction true).set request.direction false =
      (s.state.busy.set request.direction false).set s.state.direction true :=
    PerDirection.set_comm _ h true false
  -- The request that goes out is not the one taken out.
  have hflight (sent : Request) (hs : sent.direction = s.state.direction) :
      (s.inFlight ++ [sent]).eraseP (·.direction == request.direction) =
        s.inFlight.eraseP (·.direction == request.direction) ++ [sent] := by
    have hkeep : [sent].eraseP (·.direction == request.direction) = [sent] := by
      simp [hs, h]
    rw [List.eraseP_append, hkeep]
    split
    · rfl
    · rename_i hany
      rw [List.eraseP_of_forall_not]
      simpa using hany
  -- Nor does it stand among those that the reply has reached.
  have hle := reach_le_length request.direction s
  have hunsent (sent : Request) : (s.unsent ++ [sent]).drop (s.reach request.direction) =
      s.unsent.drop (s.reach request.direction) ++ [sent] :=
    List.drop_append_of_le_length hle
  have hcalls (sent : Request) : (s.unsent ++ [sent]).take (s.reach request.direction) =
      s.unsent.take (s.reach request.direction) :=
    List.take_append_of_le_length hle
  rw [applyOutcome, reach_send h]
  simp only [send, applyOutcome, hbusy, hflight ⟨s.state.direction, s.state.activeInput⟩ rfl,
    hunsent, hcalls]
  rfl

/-- A poll and a reply trade places. -/
theorem applyOutcome_poll (s : Session) (request : Request) (outcome : Outcome) (now : Instant) :
    s.poll.applyOutcome request outcome now = (s.applyOutcome request outcome now).poll := by
  have hpoll : (s.applyOutcome request outcome now).poll =
      { s.applyOutcome request outcome now with unsent := [], calls := s.submitted } := by
    rw [poll, submitted_applyOutcome]
  rw [hpoll]
  exact congrArg (Session.mk _ _ _ _) (List.append_nil s.submitted)

/-- A submission is answered by the selected direction alone, so a reply of the other one does not
change the answer. -/
theorem submit_fst_applyOutcome {request : Request} (h : s.state.direction ≠ request.direction)
    (outcome : Outcome) (now : Instant) :
    (s.applyOutcome request outcome now).submit.1 = s.submit.1 := by
  have hbusy : (s.applyOutcome request outcome now).state.isBusy s.state.direction =
      s.state.isBusy s.state.direction := by
    rw [isBusy_applyOutcome, if_neg h]
  rw [submit_fst, submit_fst, SessionState.submitEnabled, SessionState.submitEnabled]
  exact congrArg (fun flag => !flag && !Text.isBlank s.state.activeInput.toList) hbusy

theorem inFlightOf_step_of_isAside (h : Moment.IsAside d ⟨s, op⟩) :
    (s.step op).inFlightOf d = s.inFlightOf d := by
  cases op with
  | submit =>
      cases hs : s.submit.1 with
      | true =>
          rw [step_submit_of_accepted hs, inFlightOf_send, if_neg (Ne.symm h), List.append_nil]
      | false => rw [step_submit_of_refused hs]
  | poll => rfl
  | setDirection e => rfl
  | edit e text => rfl
  | toggleHistory => rfl
  | complete e outcome now => exact h.elim
  | clearHistory => exact h.elim
  | load entry => exact h.elim

/-- A change aside and the reply to a request of the direction trade places, whatever the reply
is. -/
theorem step_applyOutcome_comm (h : Moment.IsAside d ⟨s, op⟩) {request : Request}
    (hdir : request.direction = d) (outcome : Outcome) (now : Instant) :
    (s.applyOutcome request outcome now).step op =
      (s.step op).applyOutcome request outcome now := by
  subst hdir
  cases op with
  | submit =>
      have hsame := submit_fst_applyOutcome h outcome now
      cases hs : s.submit.1 with
      | true =>
          rw [step_submit_of_accepted hs, step_submit_of_accepted (hsame.trans hs),
            applyOutcome_send h]
      | false => rw [step_submit_of_refused hs, step_submit_of_refused (hsame.trans hs)]
  | poll => exact (applyOutcome_poll s request outcome now).symm
  | setDirection e => rfl
  | edit e text => rfl
  | toggleHistory => rfl
  | complete e outcome now => exact h.elim
  | clearHistory => exact h.elim
  | load entry => exact h.elim

/-- A reply trades places with a change that has nothing to do with it. -/
theorem step_complete_comm (h : Moment.IsAside d ⟨s, op⟩) (outcome : Outcome) (now : Instant) :
    (s.step (.complete d outcome now)).step op = (s.step op).step (.complete d outcome now) := by
  have hkept := inFlightOf_step_of_isAside h
  cases hq : s.inFlightOf d with
  | nil => rw [step_complete_of_nil hq, step_complete_of_nil (hkept.trans hq)]
  | cons request rest =>
      have hdir : request.direction = d := direction_of_inFlightOf_cons hq
      rw [step_complete_of_cons hq, step_complete_of_cons (hkept.trans hq),
        step_applyOutcome_comm h hdir]

/-- A submission aside gets the same answer before and behind the reply. -/
theorem answer?_step_complete (h : Moment.IsAside d ⟨s, op⟩) (outcome : Outcome) (now : Instant) :
    Moment.answer? ⟨s.step (.complete d outcome now), op⟩ = Moment.answer? ⟨s, op⟩ := by
  cases op with
  | submit =>
      cases hq : s.inFlightOf d with
      | nil => rw [step_complete_of_nil hq]
      | cons request rest =>
          have hdir : request.direction = d := direction_of_inFlightOf_cons hq
          rw [step_complete_of_cons hq]
          exact congrArg some (submit_fst_applyOutcome (hdir ▸ h) outcome now)
  | poll => rfl
  | setDirection e => rfl
  | edit e text => rfl
  | toggleHistory => rfl
  | complete e outcome now => exact h.elim
  | clearHistory => exact h.elim
  | load entry => exact h.elim

theorem history_step_of_isAside (h : Moment.IsAside d ⟨s, op⟩) :
    (s.step op).history = s.history := by
  cases op with
  | submit => exact history_step_submit s
  | poll => rfl
  | setDirection e => rfl
  | edit e text => rfl
  | toggleHistory => rfl
  | complete e outcome now => exact h.elim
  | clearHistory => exact h.elim
  | load entry => exact h.elim

end Step

/-! ## A sequence of changes -/

section Run

variable {s : Session} {d : Direction} {ops : List Op}

/-- A reply that arrives in front of changes aside leads to the same session as one that arrives
behind them, and the submissions among them get the same answers. -/
theorem run_complete_comm (h : ∀ m ∈ s.moments ops, m.IsAside d) (outcome : Outcome)
    (now : Instant) :
    (s.step (.complete d outcome now)).run ops = (s.run ops).step (.complete d outcome now) ∧
      (s.step (.complete d outcome now)).answers ops = s.answers ops := by
  -- The reply moves past the first change, and the rest starts from where that change leads.
  induction ops generalizing s with
  | nil => exact ⟨rfl, rfl⟩
  | cons op ops ih =>
      rw [moments, List.forall_mem_cons] at h
      obtain ⟨hfirst, hrest⟩ := h
      obtain ⟨hrun, hanswers⟩ := ih hrest
      constructor
      · rw [run_cons, step_complete_comm hfirst, hrun, run_cons]
      · rw [answers_cons, answers_cons, step_complete_comm hfirst, hanswers,
          answer?_step_complete hfirst]

/-- Changes that have nothing to do with a request leave it in flight and the log as it is. -/
theorem kept_of_isAside (h : ∀ m ∈ s.moments ops, m.IsAside d) :
    (s.run ops).inFlightOf d = s.inFlightOf d ∧ (s.run ops).history = s.history := by
  induction ops generalizing s with
  | nil => exact ⟨rfl, rfl⟩
  | cons op ops ih =>
      rw [moments, List.forall_mem_cons] at h
      obtain ⟨hfirst, hrest⟩ := h
      obtain ⟨hflight, hlog⟩ := ih hrest
      rw [run_cons]
      exact ⟨hflight.trans (inFlightOf_step_of_isAside hfirst),
        hlog.trans (history_step_of_isAside hfirst)⟩

/-- The time at which a reply arrives goes into the entry of the log and nowhere else. -/
theorem alikeButTimes_applyOutcome (s : Session) (request : Request) (outcome : Outcome)
    (now later : Instant) :
    AlikeButTimes (s.applyOutcome request outcome now) (s.applyOutcome request outcome later) where
  state := rfl
  log := by
    rw [applyOutcome, applyOutcome, History.undated_append, History.undated_append]
    rfl
  inFlight := rfl
  calls := rfl

end Run

/-! ## Replies of both directions -/

section TwoReplies

variable {s : Session} {request other : Request}

/-- What two replies leave in flight does not depend on their order. -/
theorem inFlight_applyOutcome_comm (h : request.direction ≠ other.direction)
    (outcome otherOutcome : Outcome) (now later otherNow otherLater : Instant) :
    ((s.applyOutcome other otherOutcome otherNow).applyOutcome request outcome later).inFlight =
      ((s.applyOutcome request outcome now).applyOutcome other otherOutcome
        otherLater).inFlight := by
  refine List.eraseP_comm fun waiting _ => ?_
  rw [beq_iff_eq, beq_iff_eq]
  by_cases hw : waiting.direction = request.direction
  · exact .inl (hw ▸ h)
  · exact .inr hw

/-- Applied in the one order or the other, two replies show the same but for the outcome, which is
that of the later reply. -/
theorem state_applyOutcome_comm (h : request.direction ≠ other.direction)
    (outcome otherOutcome : Outcome) (now later otherNow otherLater : Instant) :
    ((s.applyOutcome other otherOutcome otherNow).applyOutcome request outcome later).state =
      { ((s.applyOutcome request outcome now).applyOutcome other otherOutcome otherLater).state with
        outcome := some outcome } := by
  simp only [applyOutcome, PerDirection.set_comm s.state.busy h false false]

/-- Two replies one after the other. -/
theorem run_two_replies {d e : Direction} (h : d ≠ e) (hd : s.pending? d = some request)
    (he : s.pending? e = some other) (outcome otherOutcome : Outcome) (now later : Instant) :
    s.run [.complete d outcome now, .complete e otherOutcome later] =
      (s.applyOutcome request outcome now).applyOutcome other otherOutcome later := by
  -- The first reply leaves the request that the second one waits for.
  have hleft : (s.step (.complete d outcome now)).pending? e = s.pending? e :=
    pending?_step_complete_of_ne (Ne.symm h) outcome now
  rw [run_cons, run_cons, step_complete_of_pending (hleft.trans he), step_complete_of_pending hd]
  rfl

/-- Two replies leave two entries, in the order in which the replies arrived. -/
theorem undated_two_replies (outcome otherOutcome : Outcome) (now later : Instant) :
    ((s.applyOutcome request outcome now).applyOutcome other otherOutcome later).history.undated =
      s.history.undated ++
        [(entryOf request outcome now).undated, (entryOf other otherOutcome later).undated] := by
  rw [applyOutcome, applyOutcome, History.undated_append, History.undated_append, List.append_assoc]
  rfl

end TwoReplies

/-- A session in which both directions wait for a reply. -/
def bothWaiting : Session :=
  new.run [.edit .sqlToMongo "SELECT 1", .submit, .setDirection .mongoToSql,
    .edit .mongoToSql "db.t.find()", .submit]

end Session

end QueryBridge
