import QueryBridge.Proofs.Session.Busy

/-!
# Polls

An accepted submission is a request in flight; the service is called with it when it is first
polled. When that is lies with the owner of the session and is no part of what the user does. So two
things are said of the calls. At any moment those made and those still to be made are the accepted
submissions (`submitted`), in their order, and the ones still to be made are in flight
(`unsent_sublist`). And polls change nothing else: a run leads to the same session, once it is
polled, whatever polls it holds (`poll_run_eq`), and its submissions get the same answers
(`answers_eq`).
-/

set_option autoImplicit false

namespace QueryBridge.Session

/-! ## Requests that are still to be sent -/

/-- The requests of a direction that no poll has reached yet. -/
def unsentOf (d : Direction) (s : Session) : List Request :=
  s.unsent.filter (·.direction == d)

/-- The calls of the service in a direction. -/
def callsOf (d : Direction) (s : Session) : List Request :=
  s.calls.filter (·.direction == d)

/-- A poll moves requests from those unsent to the calls, and submits none. -/
@[simp] theorem submitted_poll (s : Session) : s.poll.submitted = s.submitted :=
  List.append_nil _

@[simp] theorem submitted_send (s : Session) :
    s.send.submitted = s.submitted ++ [⟨s.state.direction, s.state.activeInput⟩] :=
  (List.append_assoc _ _ _).symm

/-- A reply may have requests polled for the first time, which sends them and accepts none. -/
@[simp] theorem submitted_applyOutcome (s : Session) (request : Request) (outcome : Outcome)
    (now : Instant) : (s.applyOutcome request outcome now).submitted = s.submitted := by
  rw [submitted, applyOutcome]
  exact (List.append_assoc _ _ _).trans (congrArg (s.calls ++ ·) (List.take_append_drop _ _))

/-- Once a session has been polled, the calls in a direction are those made before and those that
were still to be made. -/
theorem callsOf_poll (d : Direction) (s : Session) :
    s.poll.callsOf d = s.callsOf d ++ s.unsentOf d :=
  List.filter_append _ _

/-- Whatever stands behind the first element that meets a test is still there when that element is
taken out. -/
theorem drop_findIdx?_sublist_eraseP {α : Type} (p : α → Bool) (xs : List α) :
    (xs.drop ((xs.findIdx? p).elim 0 (· + 1))).Sublist (xs.eraseP p) := by
  induction xs with
  | nil => exact .slnil
  | cons x xs ih =>
      cases hx : p x with
      | true => simp [List.findIdx?_cons, hx]
      | false =>
          rw [List.findIdx?_cons, List.eraseP_cons, hx]
          cases hfound : xs.findIdx? p with
          | some i =>
              rw [hfound] at ih
              simpa using ih.cons x
          | none =>
              rw [hfound] at ih
              simpa using ih

/-- The requests that no poll has reached yet are in flight. -/
theorem Reachable.unsent_sublist {s : Session} (h : s.Reachable) : s.unsent.Sublist s.inFlight := by
  refine h.induct (P := fun s => s.unsent.Sublist s.inFlight) .slnil ?_
  intro s op ih
  cases op with
  | submit =>
      cases hs : s.submit.1 with
      | true =>
          rw [step_submit_of_accepted hs]
          exact ih.append (.refl _)
      | false =>
          rw [step_submit_of_refused hs]
          exact ih
  | complete d outcome now =>
      cases hq : s.inFlightOf d with
      | nil =>
          rw [step_complete_of_nil hq]
          exact ih
      -- What the reply leaves unsent stood behind its request.
      | cons request rest =>
          rw [step_complete_of_cons hq]
          exact (drop_findIdx?_sublist_eraseP _ _).trans ih.eraseP
  | poll => exact List.nil_sublist _
  | setDirection d => exact ih
  | edit d text => exact ih
  | toggleHistory => exact ih
  | clearHistory => exact ih
  | load entry => exact ih

/-- In a direction nothing is still to be sent, or it is the request in flight. -/
theorem Reachable.unsentOf_eq {s : Session} (h : s.Reachable) (d : Direction) :
    s.unsentOf d = [] ∨ s.unsentOf d = s.inFlightOf d := by
  have hsub : (s.unsentOf d).Sublist (s.inFlightOf d) := h.unsent_sublist.filter _
  have hone : (s.inFlightOf d).length ≤ 1 := h.onePerBusy d ▸ Bool.toNat_le _
  cases hu : s.unsentOf d with
  | nil => exact .inl rfl
  | cons request rest =>
      right
      rw [hu] at hsub
      have hle := hsub.length_le
      rw [List.length_cons] at hle
      exact hsub.eq_of_length (by rw [List.length_cons]; omega)

/-! ## Runs without their polls -/

/-- Whether a change is a poll. -/
def Op.isPoll : Op → Bool
  | .poll => true
  | _ => false

/-- The changes that are no polls. -/
def withoutPolls (ops : List Op) : List Op :=
  ops.filter (!·.isPoll)

/-- The answer that a moment's submission gets. -/
def Moment.answer? (m : Moment) : Option Bool :=
  match m.op with
  | .submit => some m.before.submit.1
  | _ => none

/-- The answers that the submissions of a run get, the first one first. -/
def answers (s : Session) (ops : List Op) : List Bool :=
  (s.moments ops).filterMap Moment.answer?

theorem answers_cons (s : Session) (op : Op) (ops : List Op) :
    s.answers (op :: ops) = (Moment.answer? ⟨s, op⟩).toList ++ (s.step op).answers ops := by
  rw [answers, moments, List.filterMap_cons]
  cases Moment.answer? ⟨s, op⟩ <;> rfl

/-- Sessions that agree in all but the calls, and in the requests that were accepted, are one once
polled. -/
theorem poll_congr {s t : Session} (hstate : s.state = t.state) (hlog : s.history = t.history)
    (hflight : s.inFlight = t.inFlight) (hsub : s.submitted = t.submitted) : s.poll = t.poll := by
  rw [poll, poll, hstate, hlog, hflight, hsub]

/-- Whether a submission is accepted does not depend on what has been polled. -/
theorem submit_fst_poll (s : Session) : s.poll.submit.1 = s.submit.1 := by
  rw [submit_fst, submit_fst]
  rfl

/-- A change to a session that was polled first makes it the same, once it is polled again. -/
theorem poll_step_poll (s : Session) (op : Op) : (s.poll.step op).poll = (s.step op).poll := by
  -- A change treats alike whatever was polled before it, so only what it submits is compared.
  cases op with
  | submit =>
      cases hs : s.submit.1 with
      | true =>
          rw [step_submit_of_accepted hs, step_submit_of_accepted ((submit_fst_poll s).trans hs)]
          refine poll_congr rfl rfl rfl ?_
          rw [submitted_send, submitted_send, submitted_poll]
          rfl
      | false =>
          rw [step_submit_of_refused hs, step_submit_of_refused ((submit_fst_poll s).trans hs)]
          exact poll_congr rfl rfl rfl (submitted_poll s)
  | complete d outcome now =>
      cases hq : s.inFlightOf d with
      | nil =>
          have hpolled : s.poll.inFlightOf d = [] := hq
          rw [step_complete_of_nil hq, step_complete_of_nil hpolled]
          exact poll_congr rfl rfl rfl (submitted_poll s)
      | cons request rest =>
          have hpolled : s.poll.inFlightOf d = request :: rest := hq
          rw [step_complete_of_cons hq, step_complete_of_cons hpolled]
          refine poll_congr rfl rfl rfl ?_
          rw [submitted_applyOutcome, submitted_applyOutcome, submitted_poll]
  | poll => exact poll_congr rfl rfl rfl (submitted_poll s.poll)
  | setDirection d => exact poll_congr rfl rfl rfl (submitted_poll s)
  | edit d text => exact poll_congr rfl rfl rfl (submitted_poll s)
  | toggleHistory => exact poll_congr rfl rfl rfl (submitted_poll s)
  | clearHistory => exact poll_congr rfl rfl rfl (submitted_poll s)
  | load entry => exact poll_congr rfl rfl rfl (submitted_poll s)

/-- A poll in front of a change leaves the answer to it as it is. -/
theorem answer?_poll (s : Session) (op : Op) :
    Moment.answer? ⟨s.poll, op⟩ = Moment.answer? ⟨s, op⟩ := by
  cases op with
  | submit => exact congrArg some (submit_fst_poll s)
  | _ => rfl

/-- A poll at the start of a run makes no difference to the session at its end, once that is polled,
nor to the answers. -/
theorem run_poll (s : Session) (ops : List Op) :
    (s.poll.run ops).poll = (s.run ops).poll ∧ s.poll.answers ops = s.answers ops := by
  induction ops generalizing s with
  | nil => exact ⟨poll_congr rfl rfl rfl (submitted_poll s), rfl⟩
  | cons op ops ih =>
      -- Both runs go on from sessions that are one session once polled.
      have hfirst := poll_step_poll s op
      obtain ⟨hpolled, hpolledAnswers⟩ := ih (s.poll.step op)
      obtain ⟨hplain, hplainAnswers⟩ := ih (s.step op)
      constructor
      · rw [run_cons, run_cons, ← hpolled, hfirst, hplain]
      · rw [answers_cons, answers_cons, answer?_poll, ← hpolledAnswers, hfirst, hplainAnswers]

/-- A run and the same run without its polls lead to the same session once it is polled, with the
same answers to submissions. -/
theorem run_withoutPolls (s : Session) (ops : List Op) :
    (s.run (withoutPolls ops)).poll = (s.run ops).poll ∧
      s.answers (withoutPolls ops) = s.answers ops := by
  induction ops generalizing s with
  | nil => exact ⟨rfl, rfl⟩
  | cons op ops ih =>
      by_cases hpoll : op = .poll
      · subst hpoll
        obtain ⟨hrun, hanswers⟩ := run_poll s ops
        exact ⟨(ih s).1.trans hrun.symm, (ih s).2.trans hanswers.symm⟩
      · have hkept : withoutPolls (op :: ops) = op :: withoutPolls ops := by
          cases op with
          | poll => exact absurd rfl hpoll
          | _ => rfl
        obtain ⟨hrun, hanswers⟩ := ih (s.step op)
        rw [hkept, run_cons, run_cons, answers_cons, answers_cons, hanswers]
        exact ⟨hrun, rfl⟩

/-- Runs that differ in their polls at most lead to one session, once it is polled. -/
theorem poll_run_eq {ops others : List Op} (h : withoutPolls ops = withoutPolls others)
    (s : Session) : (s.run ops).poll = (s.run others).poll := by
  rw [← (run_withoutPolls s ops).1, h, (run_withoutPolls s others).1]

/-- Runs that differ in their polls at most answer their submissions alike. -/
theorem answers_eq {ops others : List Op} (h : withoutPolls ops = withoutPolls others)
    (s : Session) : s.answers ops = s.answers others := by
  rw [← (run_withoutPolls s ops).2, h, (run_withoutPolls s others).2]

end QueryBridge.Session
