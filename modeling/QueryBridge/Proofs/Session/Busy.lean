import QueryBridge.Proofs.Session.Run

/-!
# Busy directions

The busy flag of a direction and the requests in flight are kept apart and change at different
places. They agree in every reachable session: a direction has one request in flight while it is
busy and none while it is not (`OnePerBusy`, kept by `OnePerBusy.step`). Hence the number of
requests in flight is the number of busy directions, and only an accepted submission in a direction
and a reply of that direction move its flag (`busy_iff_one_inFlight`).
-/

set_option autoImplicit false

namespace QueryBridge.Session

/-- A busy direction has one request in flight and any other direction has none. -/
def OnePerBusy (s : Session) : Prop :=
  ∀ d, (s.inFlightOf d).length = (s.state.isBusy d).toNat

/-! ## What moves a flag -/

theorem isBusy_send (d : Direction) (s : Session) :
    s.send.state.isBusy d = if d = s.state.direction then true else s.state.isBusy d :=
  PerDirection.get_set _ _ _ _

theorem isBusy_applyOutcome (d : Direction) (s : Session) (request : Request) (outcome : Outcome)
    (now : Instant) :
    (s.applyOutcome request outcome now).state.isBusy d =
      if d = request.direction then false else s.state.isBusy d :=
  PerDirection.get_set _ _ _ _

theorem onePerBusy_new : OnePerBusy new := by
  intro d
  cases d <;> rfl

/-- An accepted submission raises the flag of a direction that has no request in flight, and sends
one. -/
theorem OnePerBusy.send {s : Session} (h : s.OnePerBusy) (hs : s.submit.1 = true) :
    s.send.OnePerBusy := by
  intro d
  have hd := h d
  -- Only the selected direction gains a request, and it was free.
  rw [inFlightOf_send, isBusy_send, List.length_append]
  by_cases hdir : d = s.state.direction
  · rw [hdir, isBusy_of_accepted hs] at hd
    rw [if_pos hdir, if_pos hdir, hdir, hd]
    rfl
  · rw [if_neg hdir, if_neg hdir, hd]
    rfl

/-- A reply takes out the only request of its direction and lowers the flag. -/
theorem OnePerBusy.applyOutcome {s : Session} (h : s.OnePerBusy) (request : Request)
    (outcome : Outcome) (now : Instant) : (s.applyOutcome request outcome now).OnePerBusy := by
  intro d
  rw [inFlightOf_applyOutcome, isBusy_applyOutcome]
  by_cases hd : d = request.direction
  -- At most one request was in flight there, so none is left behind the one taken out.
  · have hle := Bool.toNat_le (s.state.isBusy d)
    rw [if_pos hd, if_pos hd, List.length_tail, h d, Bool.toNat_false]
    omega
  · rw [if_neg hd, if_neg hd]
    exact h d

/-- Every change keeps flags and requests in step. -/
theorem OnePerBusy.step {s : Session} (h : s.OnePerBusy) (op : Op) : (s.step op).OnePerBusy := by
  cases op with
  | submit =>
      cases hs : s.submit.1 with
      | true =>
          rw [step_submit_of_accepted hs]
          exact h.send hs
      | false =>
          rw [step_submit_of_refused hs]
          exact h
  | complete d outcome now =>
      cases hq : s.inFlightOf d with
      | nil =>
          rw [step_complete_of_nil hq]
          exact h
      | cons request rest =>
          rw [step_complete_of_cons hq]
          exact h.applyOutcome request outcome now
  -- The other changes write neither a flag nor the requests in flight.
  | poll => exact h
  | setDirection d => exact h
  | edit d text => exact h
  | toggleHistory => exact h
  | clearHistory => exact h
  | load entry => exact h

theorem Reachable.onePerBusy {s : Session} (h : s.Reachable) : s.OnePerBusy :=
  h.induct onePerBusy_new fun _ op ih => ih.step op

/-! ## Flags and requests in flight -/

theorem OnePerBusy.isBusy_iff {s : Session} (h : s.OnePerBusy) (d : Direction) :
    s.state.isBusy d = true ↔ ∃ request, s.inFlightOf d = [request] := by
  rw [← List.length_eq_one_iff, h d]
  cases s.state.isBusy d <;> simp

/-- Behind the first request of a direction in flight there is no second one. -/
theorem OnePerBusy.rest_eq_nil {s : Session} (h : s.OnePerBusy) {d : Direction} {request : Request}
    {rest : List Request} (hq : s.inFlightOf d = request :: rest) : rest = [] := by
  have hle : (s.inFlightOf d).length ≤ 1 := h d ▸ Bool.toNat_le _
  rw [hq, List.length_cons] at hle
  exact List.length_eq_zero_iff.1 (by omega)

theorem OnePerBusy.not_isBusy_iff {s : Session} (h : s.OnePerBusy) (d : Direction) :
    s.state.isBusy d = false ↔ s.inFlightOf d = [] := by
  rw [← List.length_eq_zero_iff, h d]
  cases s.state.isBusy d <;> simp

/-- There is something to complete exactly where a request of the direction is in flight. -/
theorem isSome_complete?_iff (s : Session) (d : Direction) (outcome : Outcome) (now : Instant) :
    (s.complete? d outcome now).isSome = true ↔ s.inFlightOf d ≠ [] := by
  rw [complete?, Option.isSome_map, pending?_eq_head?]
  cases s.inFlightOf d <;> simp

/-- A list whose elements each have a direction falls into the elements of the one direction and
those of the other. -/
theorem length_eq_add_of_direction {α : Type} (dir : α → Direction) (xs : List α) :
    xs.length = (xs.filter (dir · == .sqlToMongo)).length +
      (xs.filter (dir · == .mongoToSql)).length := by
  rw [← List.countP_eq_length_filter, ← List.countP_eq_length_filter,
    List.length_eq_countP_add_countP (dir · == Direction.sqlToMongo)]
  congr 1
  refine List.countP_congr fun x _ => ?_
  cases dir x <;> simp

/-- As many requests are in flight as flags are up. -/
theorem OnePerBusy.pendingCount {s : Session} (h : s.OnePerBusy) :
    s.pendingCount = (Direction.all.filter s.state.isBusy).length := by
  have hsum := length_eq_add_of_direction Request.direction s.inFlight
  rw [Session.pendingCount, hsum, ← inFlightOf, ← inFlightOf, h, h]
  cases hq : s.state.isBusy .sqlToMongo <;> cases hm : s.state.isBusy .mongoToSql <;>
    simp [Direction.all, hq, hm]

theorem OnePerBusy.hasPending {s : Session} (h : s.OnePerBusy) :
    s.hasPending = s.state.isAnyBusy := by
  have hc := h.pendingCount
  rw [Session.pendingCount] at hc
  rw [Bool.eq_iff_iff, Session.hasPending, Bool.not_eq_true', List.isEmpty_eq_false_iff_exists_mem,
    ← List.length_pos_iff_exists_mem, hc, List.length_pos_iff_exists_mem, SessionState.isAnyBusy,
    List.any_eq_true]
  simp only [List.mem_filter]

/-- An accepted submission in a direction, or a reply to a request of that direction. -/
def MovesFlag (s : Session) (d : Direction) : Op → Prop
  | .submit => s.state.direction = d ∧ s.submit.1 = true
  | .complete e outcome now => e = d ∧ (s.complete? e outcome now).isSome = true
  | _ => False

/-- Which changes move a flag: an accepted submission and a completed request of its direction, and
no others. -/
theorem OnePerBusy.moves_iff {s : Session} (h : s.OnePerBusy) (op : Op) (d : Direction) :
    (s.step op).state.isBusy d ≠ s.state.isBusy d ↔ s.MovesFlag d op := by
  cases op with
  | submit =>
      cases hs : s.submit.1 with
      | true =>
          have hfree := isBusy_of_accepted hs
          rw [step_submit_of_accepted hs, isBusy_send]
          by_cases hd : d = s.state.direction
          · simp [MovesFlag, hs, hd, hfree]
          · simp [MovesFlag, hd, Ne.symm hd]
      | false => simp [MovesFlag, step_submit_of_refused hs, hs]
  | complete e outcome now =>
      cases hq : s.inFlightOf e with
      | nil => simp [MovesFlag, step_complete_of_nil hq, isSome_complete?_iff, hq]
      | cons request rest =>
          have hdir : request.direction = e :=
            direction_of_mem_inFlightOf (hq ▸ List.mem_cons_self)
          -- A direction with a request in flight is busy, so the reply does change its flag.
          have hbusy : s.state.isBusy e = true := by
            refine (h.isBusy_iff e).2 ⟨request, ?_⟩
            rw [hq, h.rest_eq_nil hq]
          rw [step_complete_of_cons hq, isBusy_applyOutcome, hdir]
          by_cases hd : d = e
          · simp [MovesFlag, isSome_complete?_iff, hq, hd, hbusy]
          · simp [MovesFlag, hd, Ne.symm hd]
  | poll => exact iff_of_false (fun hne => hne rfl) id
  | setDirection e => exact iff_of_false (fun hne => hne rfl) id
  | edit e text => exact iff_of_false (fun hne => hne rfl) id
  | toggleHistory => exact iff_of_false (fun hne => hne rfl) id
  | clearHistory => exact iff_of_false (fun hne => hne rfl) id
  | load entry => exact iff_of_false (fun hne => hne rfl) id

/-- In every reachable session a direction is busy exactly while one request of it is in flight and
free exactly while none is. The number of requests in flight is the number of busy directions, and
no change but an accepted submission in a direction or a reply of it moves its flag. -/
theorem busy_iff_one_inFlight {s : Session} (hs : s.Reachable) :
    (∀ d, (s.state.isBusy d = true ↔ ∃ request, s.inFlightOf d = [request]) ∧
      (s.state.isBusy d = false ↔ s.inFlightOf d = [])) ∧
    s.pendingCount = (Direction.all.filter s.state.isBusy).length ∧
    s.hasPending = s.state.isAnyBusy ∧
    ∀ op d, (s.step op).state.isBusy d ≠ s.state.isBusy d ↔ s.MovesFlag d op := by
  have h := hs.onePerBusy
  exact ⟨fun d => ⟨h.isBusy_iff d, h.not_isBusy_iff d⟩, h.pendingCount, h.hasPending, h.moves_iff⟩

/-- A session that left a request alone: it waits for a reply while the other direction is selected
and the history has been cleared. -/
def leftWaiting : Session :=
  new.run [.edit .sqlToMongo "SELECT 1", .submit, .setDirection .mongoToSql, .clearHistory]

theorem leftWaiting_busy :
    leftWaiting.Reachable ∧ leftWaiting.inFlightOf .sqlToMongo = [⟨.sqlToMongo, "SELECT 1"⟩] ∧
      leftWaiting.state.isBusy .sqlToMongo = true ∧ leftWaiting.pendingCount = 1 := by
  have hs : leftWaiting.Reachable := ⟨_, rfl⟩
  have hq : leftWaiting.inFlightOf .sqlToMongo = [⟨.sqlToMongo, "SELECT 1"⟩] := rfl
  obtain ⟨hflags, hcount, _⟩ := busy_iff_one_inFlight hs
  refine ⟨hs, hq, (hflags .sqlToMongo).1.2 ⟨_, hq⟩, ?_⟩
  rw [hcount]
  rfl

end QueryBridge.Session
