import QueryBridge.Proofs.Session.Polls
import QueryBridge.View.Intent

/-!
# Submitting what was recorded

A buffer may be blank, and so may an entry from elsewhere that is loaded. But every text that is in
flight, sent or recorded has passed the guard of a submission, so none of them is blank
(`Worded`, kept by `Worded.step`). Hence an entry that is chosen from the log can be submitted again
as it stands, if its direction is free.

The request that goes out stays the pending one of its direction until a reply of that direction
comes, whatever else happens (`pending?_run`), so its reply records the direction and the input of
the entry once more (`recorded_entry_resubmits`).
-/

set_option autoImplicit false

namespace QueryBridge

namespace Session

/-! ## Texts that have passed the guard -/

/-- No text in flight, sent or recorded is blank, nor is one that is still to be sent. -/
structure Worded (s : Session) : Prop where
  inFlight : ∀ request ∈ s.inFlight, Text.isBlank request.text.toList = false
  unsent : ∀ request ∈ s.unsent, Text.isBlank request.text.toList = false
  calls : ∀ request ∈ s.calls, Text.isBlank request.text.toList = false
  log : ∀ entry ∈ s.history.entries, Text.isBlank entry.input.toList = false

theorem worded_new : Worded new :=
  ⟨List.forall_mem_nil _, List.forall_mem_nil _, List.forall_mem_nil _, List.forall_mem_nil _⟩

namespace Worded

variable {s : Session}

theorem send (h : s.Worded) (hs : s.submit.1 = true) : s.send.Worded where
  inFlight := List.forall_mem_append.2
    ⟨h.inFlight, List.forall_mem_singleton.2 (isBlank_of_accepted hs)⟩
  unsent := List.forall_mem_append.2
    ⟨h.unsent, List.forall_mem_singleton.2 (isBlank_of_accepted hs)⟩
  calls := h.calls
  log := h.log

theorem poll (h : s.Worded) : s.poll.Worded where
  inFlight := h.inFlight
  unsent := List.forall_mem_nil _
  calls := List.forall_mem_append.2 ⟨h.calls, h.unsent⟩
  log := h.log

/-- A reply logs the text of a request that was in flight, which has words. -/
theorem applyOutcome (h : s.Worded) {request : Request} (hrequest : request ∈ s.inFlight)
    (outcome : Outcome) (now : Instant) : (s.applyOutcome request outcome now).Worded where
  inFlight := fun other hother => h.inFlight other (List.mem_of_mem_eraseP hother)
  unsent := fun other hother => h.unsent other (List.mem_of_mem_drop hother)
  calls := List.forall_mem_append.2
    ⟨h.calls, fun other hother => h.unsent other (List.mem_of_mem_take hother)⟩
  -- The entry has the text of the request that was in flight.
  log := List.forall_mem_append.2 ⟨h.log, List.forall_mem_singleton.2 (h.inFlight request hrequest)⟩

theorem step (h : s.Worded) (op : Op) : (s.step op).Worded := by
  cases op with
  | submit =>
      cases hs : s.submit.1 with
      | true =>
          rw [step_submit_of_accepted hs]
          exact h.send hs
      | false =>
          rw [step_submit_of_refused hs]
          exact h
  | complete d outcome now =>
      cases hp : s.pending? d with
      | none =>
          rw [step_complete_of_none hp]
          exact h
      | some request =>
          rw [step_complete_of_pending hp]
          exact h.applyOutcome (List.mem_of_find?_eq_some hp) outcome now
  | poll => exact h.poll
  | clearHistory => exact ⟨h.inFlight, h.unsent, h.calls, List.forall_mem_nil _⟩
  -- The other changes write buffers at most.
  | setDirection d => exact ⟨h.inFlight, h.unsent, h.calls, h.log⟩
  | edit d text => exact ⟨h.inFlight, h.unsent, h.calls, h.log⟩
  | toggleHistory => exact ⟨h.inFlight, h.unsent, h.calls, h.log⟩
  | load entry => exact ⟨h.inFlight, h.unsent, h.calls, h.log⟩

end Worded

/-- In every session that can be reached, whatever was sent or logged has words. -/
theorem Reachable.worded {s : Session} (h : s.Reachable) : s.Worded :=
  h.induct worded_new fun _ op ih => ih.step op

/-! ## Requests that wait for their reply -/

/-- Whether a change is a reply of a direction. -/
def Op.completes (d : Direction) : Op → Bool
  | .complete e _ _ => e == d
  | _ => false

section Pending

variable {s : Session} {d : Direction} {request : Request}

/-- A request stays the pending one of its direction over every change but a reply of it. -/
theorem pending?_step (h : s.pending? d = some request) {op : Op} (hop : op.completes d = false) :
    (s.step op).pending? d = some request := by
  cases op with
  | submit =>
      cases hs : s.submit.1 with
      | true =>
          -- A new request stands behind those that are in flight.
          rw [step_submit_of_accepted hs, pending?, send, List.find?_append]
          rw [pending?] at h
          rw [h]
          rfl
      | false =>
          rw [step_submit_of_refused hs]
          exact h
  | complete e outcome now =>
      rw [pending?_step_complete_of_ne (Ne.symm (beq_eq_false_iff_ne.1 hop))]
      exact h
  | poll => exact h
  | setDirection e => exact h
  | edit e text => exact h
  | toggleHistory => exact h
  | clearHistory => exact h
  | load entry => exact h

/-- A request stays the next one to be answered until a reply of its direction comes. -/
theorem pending?_run (h : s.pending? d = some request) {ops : List Op}
    (hops : ∀ op ∈ ops, op.completes d = false) : (s.run ops).pending? d = some request := by
  induction ops generalizing s with
  | nil => exact h
  | cons op ops ih =>
      rw [List.forall_mem_cons] at hops
      rw [run_cons]
      exact ih (pending?_step h hops.1) hops.2

/-- A reply records the request that is pending in its direction. -/
theorem entries_step_complete (h : s.pending? d = some request) (outcome : Outcome)
    (now : Instant) :
    (s.step (.complete d outcome now)).history.entries =
      s.history.entries ++ [⟨d, request.text, outcome.text, now⟩] := by
  rw [step_complete_of_pending h, ← direction_of_pending h]
  rfl

end Pending

/-! ## An entry that is loaded and submitted -/

/-- An entry is loaded and submitted. The submission is accepted where the direction of the entry
is free; then the entry joins as it stands the requests in flight and those that are sent at the
next poll, and its reply records the direction and the input of the entry, whatever happens in
between. -/
structure Resubmits (before : Session) (entry : HistoryEntry) (loaded sent : Session) : Prop where
  accepted_iff : loaded.submit.1 = true ↔ before.state.isBusy entry.direction = false
  loadedLog : loaded.history = before.history
  sentLog : sent.history = before.history
  loadedRequests : loaded.inFlight = before.inFlight ∧ loaded.unsent = before.unsent ∧
    loaded.calls = before.calls
  refused : before.state.isBusy entry.direction = true → sent = loaded
  sends : before.state.isBusy entry.direction = false →
    sent.inFlight = before.inFlight ++ [⟨entry.direction, entry.input⟩] ∧
    sent.unsent = before.unsent ++ [⟨entry.direction, entry.input⟩] ∧
    sent.calls = before.calls ∧
    sent.poll.calls = before.poll.calls ++ [⟨entry.direction, entry.input⟩]
  records : before.state.isBusy entry.direction = false →
    ∀ ops, (∀ op ∈ ops, op.completes entry.direction = false) → ∀ outcome now,
      ((sent.run ops).step (.complete entry.direction outcome now)).history.entries =
        (sent.run ops).history.entries ++ [⟨entry.direction, entry.input, outcome.text, now⟩]

section Resubmits

variable {s : Session} {entry : HistoryEntry}

theorem activeInput_load (s : Session) (entry : HistoryEntry) :
    (s.load entry).state.activeInput = entry.input :=
  PerDirection.get_set_self _ _ _

/-- An entry with words goes out as soon as it is loaded, if its direction is free. -/
theorem submit_load (hentry : Text.isBlank entry.input.toList = false) :
    (s.load entry).submit.1 = !s.state.isBusy entry.direction := by
  rw [submit_fst, SessionState.submitEnabled, activeInput_load, hentry]
  exact Bool.and_true _

/-- What goes out of the buffer that an entry was put into is the entry. -/
theorem request_load (s : Session) (entry : HistoryEntry) :
    (⟨(s.load entry).state.direction, (s.load entry).state.activeInput⟩ : Request) =
      ⟨entry.direction, entry.input⟩ := by
  rw [activeInput_load]
  rfl

/-- The request that then goes out is the next one to be answered: it has the direction and the text
of the entry. -/
theorem pending?_send_load (hbusy : s.OnePerBusy) (hfree : s.state.isBusy entry.direction = false) :
    (s.load entry).send.pending? entry.direction = some ⟨entry.direction, entry.input⟩ := by
  have hnone : (s.load entry).inFlightOf entry.direction = [] := (hbusy.not_isBusy_iff _).1 hfree
  rw [pending?_eq_head?, inFlightOf_send, hnone, request_load]
  exact congrArg List.head? (if_pos rfl)

/-- Loading an entry with words and submitting it sends just the request that led to the entry, or
nothing where the direction is busy. -/
theorem resubmits (hbusy : s.OnePerBusy) (hentry : Text.isBlank entry.input.toList = false) :
    Resubmits s entry (s.load entry) (s.load entry).submit.2 where
  accepted_iff := by rw [submit_load hentry, Bool.not_eq_true']
  loadedLog := rfl
  sentLog := history_step_submit (s.load entry)
  loadedRequests := ⟨rfl, rfl, rfl⟩
  refused := fun h => step_submit_of_refused ((submit_load hentry).trans (by rw [h]; rfl))
  sends := fun h => by
    have hsend : (s.load entry).submit.2 = (s.load entry).send :=
      step_submit_of_accepted ((submit_load hentry).trans (by rw [h]; rfl))
    rw [hsend, ← request_load s entry]
    exact ⟨rfl, rfl, rfl, submitted_send (s.load entry)⟩
  records := fun h ops hops outcome now => by
    have hsend : (s.load entry).submit.2 = (s.load entry).send :=
      step_submit_of_accepted ((submit_load hentry).trans (by rw [h]; rfl))
    rw [hsend]
    exact entries_step_complete (pending?_run (pending?_send_load hbusy h) hops) outcome now

end Resubmits

end Session

namespace Console

theorem session_dispatch (console : Console) (intent : Intent) :
    (console.dispatch intent).1.session = (intent.apply console.session).1 :=
  rfl

theorem session_dispatch_selectEntry {console : Console} {index : Nat} {entry : HistoryEntry}
    (h : console.session.history.get? index = some entry) :
    (console.dispatch (.selectEntry index)).1.session = console.session.load entry := by
  rw [session_dispatch, Intent.apply, h]

/-- In every reachable session, whatever was loaded into it, no text in flight, sent or recorded is
blank. So each entry of the log can be chosen and submitted again: this is accepted where the
direction of the entry is free, and then the entry goes out as it stands and is recorded once more
when its reply comes, whenever that is. -/
theorem recorded_entry_resubmits {console : Console} (h : console.session.Reachable) :
    console.session.Worded ∧
    ∀ index, index < console.session.history.length →
      ∃ entry, console.session.history.get? index = some entry ∧
        let loaded := (console.dispatch (.selectEntry index)).1
        let sent := (loaded.dispatch .submit).1
        Session.Resubmits console.session entry loaded.session sent.session := by
  have hworded := h.worded
  refine ⟨hworded, ?_⟩
  intro index hindex
  have hentry := List.getElem?_eq_getElem hindex
  refine ⟨console.session.history.entries[index], hentry, ?_⟩
  intro loaded sent
  have hloaded : loaded.session = console.session.load console.session.history.entries[index] :=
    session_dispatch_selectEntry hentry
  have hsent : sent.session = loaded.session.submit.2 := rfl
  rw [hsent, hloaded]
  exact Session.resubmits h.onePerBusy (hworded.log _ (List.getElem_mem hindex))

/-- A session in which a blank entry from elsewhere was loaded and refused, and a query between
white space was answered. -/
def answeredOnce : Session :=
  Session.new.run [.load ⟨.sqlToMongo, " \n", "x", 1⟩, .submit, .setDirection .mongoToSql,
    .edit .mongoToSql " db.t.find()\n", .submit, .complete .mongoToSql (.failure "no answer") 5,
    .setDirection .sqlToMongo]

/-- The one entry goes out again as it stands, and is recorded again after the log was cleared. -/
theorem answeredOnce_resubmits :
    answeredOnce.Reachable ∧ 0 < answeredOnce.history.length ∧
    let loaded := ((⟨answeredOnce, {}⟩ : Console).dispatch (.selectEntry 0)).1
    let sent := (loaded.dispatch .submit).1.session
    loaded.session.submit.1 = true ∧
    sent.poll.calls = [⟨.mongoToSql, " db.t.find()\n"⟩, ⟨.mongoToSql, " db.t.find()\n"⟩] ∧
    ((sent.run [.clearHistory, .setDirection .sqlToMongo]).step
      (.complete .mongoToSql (.success "SELECT 1") 9)).history.entries =
        [⟨.mongoToSql, " db.t.find()\n", "SELECT 1", 9⟩] := by
  have hreachable : answeredOnce.Reachable := ⟨_, rfl⟩
  have hshown : 0 < answeredOnce.history.length := by decide
  have hconsole : (⟨answeredOnce, {}⟩ : Console).session.Reachable := hreachable
  obtain ⟨-, hentries⟩ := recorded_entry_resubmits hconsole
  obtain ⟨entry, hentry, hresubmits⟩ := hentries 0 hshown
  have hfirst : entry = ⟨.mongoToSql, " db.t.find()\n", "no answer", 5⟩ := by
    cases hentry
    rfl
  subst hfirst
  have hfree : answeredOnce.state.isBusy .mongoToSql = false := rfl
  refine ⟨hreachable, hshown, hresubmits.accepted_iff.2 hfree,
    (hresubmits.sends hfree).2.2.2, ?_⟩
  exact hresubmits.records hfree [.clearHistory, .setDirection .sqlToMongo] (by decide) _ _

end Console

end QueryBridge
