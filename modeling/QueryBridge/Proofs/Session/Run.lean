import Mathlib.Data.List.Induction
import QueryBridge.Session

/-!
# Runs of a session

A run is read from its end: the last change acts on the session that the changes before it left
(`run_concat`). `moments` keeps each change together with the session it acted on, so that a
statement about a run can say what was on the screen or in flight when a change was made.

A property that holds at the start and survives every change holds in every reachable session
(`Reachable.induct`). What a submission and a reply do is stated here once: a submission goes out
exactly where the control for submitting is enabled (`submit_eq`), and a reply acts on the requests
in flight of its own direction (`step_complete_of_nil`, `step_complete_of_cons`).
-/

set_option autoImplicit false

namespace QueryBridge.Session

/-! ## Runs and their moments -/

theorem run_cons (s : Session) (op : Op) (ops : List Op) :
    s.run (op :: ops) = (s.step op).run ops :=
  rfl

theorem run_concat (s : Session) (ops : List Op) (op : Op) :
    s.run (ops ++ [op]) = (s.run ops).step op := by
  simp only [run, List.foldl_append, List.foldl_cons, List.foldl_nil]

theorem run_append (s : Session) (first later : List Op) :
    s.run (first ++ later) = (s.run first).run later :=
  List.foldl_append

theorem Reachable.run {s : Session} (h : s.Reachable) (ops : List Op) : (s.run ops).Reachable := by
  obtain ⟨first, rfl⟩ := h
  exact ⟨first ++ ops, (run_append new first ops).symm⟩

/-- A change in a run, with the session that it acted on. -/
structure Moment where
  before : Session
  op : Op

/-- The moments of a run, the first one first. -/
def moments (s : Session) : List Op → List Moment
  | [] => []
  | op :: ops => ⟨s, op⟩ :: (s.step op).moments ops

theorem moments_concat (s : Session) (ops : List Op) (op : Op) :
    s.moments (ops ++ [op]) = s.moments ops ++ [⟨s.run ops, op⟩] := by
  induction ops generalizing s with
  | nil => rfl
  | cons first ops ih => rw [List.cons_append, moments, moments, ih, run_cons, List.cons_append]

/-- What holds at the start and survives every change holds in every reachable session. -/
theorem Reachable.induct {P : Session → Prop} (start : P new)
    (next : ∀ s op, P s → P (s.step op)) {s : Session} (h : s.Reachable) : P s := by
  obtain ⟨ops, rfl⟩ := h
  induction ops using List.reverseRecOn with
  | nil => exact start
  | append_singleton ops op ih =>
      rw [run_concat]
      exact next _ op ih

/-! ## Submissions -/

/-- A submission goes out exactly where the control for submitting is enabled. -/
theorem submit_eq (s : Session) :
    s.submit = if s.state.submitEnabled then (true, s.send) else (false, s) := by
  simp only [submit, SessionState.submitEnabled]
  by_cases hb : s.state.isBusy s.state.direction = true
  · simp [hb]
  · by_cases ht : Text.isBlank s.state.activeInput.toList = true <;> simp [hb, ht]

/-- The guard of a submission is the control for submitting. -/
theorem submit_fst (s : Session) : s.submit.1 = s.state.submitEnabled := by
  rw [submit_eq]
  cases s.state.submitEnabled <;> rfl

theorem step_submit_of_accepted {s : Session} (h : s.submit.1 = true) :
    s.step .submit = s.send := by
  rw [submit_fst] at h
  rw [step, submit_eq, if_pos h]

theorem step_submit_of_refused {s : Session} (h : s.submit.1 = false) : s.step .submit = s := by
  rw [submit_fst] at h
  rw [step, submit_eq, h]
  rfl

/-- A submission that goes out comes from a direction that was not busy. -/
theorem isBusy_of_accepted {s : Session} (h : s.submit.1 = true) :
    s.state.isBusy s.state.direction = false := by
  rw [submit_fst, SessionState.submitEnabled, Bool.and_eq_true, Bool.not_eq_true'] at h
  exact h.1

/-- The guard lets no blank buffer pass. -/
theorem isBlank_of_accepted {s : Session} (h : s.submit.1 = true) :
    Text.isBlank s.state.activeInput.toList = false := by
  rw [submit_fst, SessionState.submitEnabled, Bool.and_eq_true, Bool.not_eq_true',
    Bool.not_eq_true'] at h
  exact h.2

/-- Of what the user sees, a submission writes the busy flags alone. -/
theorem state_step_submit (s : Session) :
    (s.step .submit).state = { s.state with busy := (s.step .submit).state.busy } := by
  rw [step, submit_eq]
  cases s.state.submitEnabled <;> rfl

/-- No submission touches the log; requests are logged when they are answered. -/
theorem history_step_submit (s : Session) : (s.step .submit).history = s.history := by
  rw [step, submit_eq]
  cases s.state.submitEnabled <;> rfl

/-! ## Requests of one direction in flight -/

/-- The requests of a direction that are in flight, in the order of submission. -/
def inFlightOf (d : Direction) (s : Session) : List Request :=
  s.inFlight.filter (·.direction == d)

theorem pending?_of_idle {s : Session} (h : s.inFlight = []) (d : Direction) :
    s.pending? d = none := by
  rw [pending?, h]
  rfl

/-- The request that is answered next in a direction is the oldest one of it. -/
theorem pending?_eq_head? (d : Direction) (s : Session) :
    s.pending? d = (s.inFlightOf d).head? := by
  rw [inFlightOf, List.head?_filter, pending?]

theorem direction_of_mem_inFlightOf {d : Direction} {s : Session} {request : Request}
    (h : request ∈ s.inFlightOf d) : request.direction = d := by
  simpa using (List.mem_filter.1 h).2

theorem direction_of_inFlightOf_cons {d : Direction} {s : Session} {request : Request}
    {rest : List Request} (h : s.inFlightOf d = request :: rest) : request.direction = d :=
  direction_of_mem_inFlightOf (h ▸ List.mem_cons_self)

/-- A reply that no request in flight waits for changes nothing. -/
theorem step_complete_of_nil {s : Session} {d : Direction} (h : s.inFlightOf d = [])
    (outcome : Outcome) (now : Instant) : s.step (.complete d outcome now) = s := by
  rw [step, complete?, pending?_eq_head?, h]
  rfl

/-- A reply is applied to the first request in flight of its direction. -/
theorem step_complete_of_cons {s : Session} {d : Direction} {request : Request}
    {rest : List Request} (h : s.inFlightOf d = request :: rest) (outcome : Outcome)
    (now : Instant) :
    s.step (.complete d outcome now) = s.applyOutcome request outcome now := by
  rw [step, complete?, pending?_eq_head?, h]
  rfl

theorem step_complete_of_none {s : Session} {d : Direction} (h : s.pending? d = none)
    (outcome : Outcome) (now : Instant) : s.step (.complete d outcome now) = s := by
  rw [step, complete?, h]
  rfl

theorem step_complete_of_pending {s : Session} {d : Direction} {request : Request}
    (h : s.pending? d = some request) (outcome : Outcome) (now : Instant) :
    s.step (.complete d outcome now) = s.applyOutcome request outcome now := by
  rw [step, complete?, h]
  rfl

theorem direction_of_pending {s : Session} {d : Direction} {request : Request}
    (h : s.pending? d = some request) : request.direction = d := by
  rw [pending?_eq_head?] at h
  exact direction_of_mem_inFlightOf (List.mem_of_mem_head? h)

/-- Of what the user sees, a reply writes the busy flags and the outcome alone. -/
theorem state_step_complete (s : Session) (d : Direction) (outcome : Outcome) (now : Instant) :
    (s.step (.complete d outcome now)).state =
      { s.state with
        busy := (s.step (.complete d outcome now)).state.busy
        outcome := (s.step (.complete d outcome now)).state.outcome } := by
  cases hq : s.inFlightOf d with
  | nil => rw [step_complete_of_nil hq]
  | cons request rest =>
      rw [step_complete_of_cons hq]
      rfl

/-- A submission adds one request of the selected direction behind those in flight, and none of the
other direction. -/
theorem inFlightOf_send (d : Direction) (s : Session) :
    s.send.inFlightOf d = s.inFlightOf d ++
      if d = s.state.direction then [⟨s.state.direction, s.state.activeInput⟩] else [] := by
  rw [inFlightOf, send, List.filter_append]
  by_cases h : d = s.state.direction
  · simp [inFlightOf, h]
  · simp [inFlightOf, h, Ne.symm h]

/-- Taking out the first request of a direction leaves the requests of the other one alone. -/
theorem filter_direction_eraseP (d e : Direction) (requests : List Request) :
    (requests.eraseP (·.direction == e)).filter (·.direction == d) =
      if d = e then (requests.filter (·.direction == d)).tail
      else requests.filter (·.direction == d) := by
  induction requests with
  | nil => simp
  | cons request rest ih =>
      cases he : request.direction == e with
      -- This is the request taken out; what is left of its direction is what stood behind it.
      | true =>
          have heq : request.direction = e := beq_iff_eq.1 he
          subst heq
          simp only [List.eraseP_cons, he, cond_true, List.filter_cons]
          by_cases hd : d = request.direction
          · simp [hd]
          · simp [hd, Ne.symm hd]
      | false =>
          simp only [List.eraseP_cons, he, cond_false, List.filter_cons, ih]
          by_cases hd : d = e
          · simp [hd, he]
          · simp [hd]

/-- A reply takes the oldest request of its direction out, and none of the other direction. -/
theorem inFlightOf_applyOutcome (d : Direction) (s : Session) (request : Request)
    (outcome : Outcome) (now : Instant) :
    (s.applyOutcome request outcome now).inFlightOf d =
      if d = request.direction then (s.inFlightOf d).tail else s.inFlightOf d :=
  filter_direction_eraseP d request.direction s.inFlight

/-- The reply of one direction leaves the other one's request in flight. -/
theorem pending?_step_complete_of_ne {s : Session} {d e : Direction} (h : d ≠ e)
    (outcome : Outcome) (now : Instant) :
    (s.step (.complete e outcome now)).pending? d = s.pending? d := by
  rw [pending?_eq_head?, pending?_eq_head?]
  cases hq : s.inFlightOf e with
  | nil => rw [step_complete_of_nil hq]
  | cons waiting rest =>
      have hdir : waiting.direction = e := direction_of_inFlightOf_cons hq
      rw [step_complete_of_cons hq, inFlightOf_applyOutcome, if_neg (hdir ▸ h)]

end QueryBridge.Session
