import QueryBridge.Proofs.Session.Busy

/-!
# The parts of a session

A session is made of parts (`Part`), and it is the same if all of them are (`eq_of_kept`). Every
change names the parts that it may touch (`Op.parts`), with nothing said of what it does to them.
All others are kept by one change (`kept_step`), and by a run those that none of its changes touches
(`kept_run`).
-/

set_option autoImplicit false

namespace QueryBridge.Session

/-- A part of a session. The requests in flight come with what a poll has reached of them; the calls
are those that the service has received. -/
inductive Part where
  | direction
  | buffer (d : Direction)
  | outcome
  | flag (d : Direction)
  | panel
  | log
  | inFlight
  | calls
  deriving DecidableEq, Repr

/-- A part is what it was before. -/
def Part.Kept (before after : Session) : Part → Prop
  | direction => after.state.direction = before.state.direction
  | buffer d => after.state.input d = before.state.input d
  | outcome => after.state.outcome = before.state.outcome
  | flag d => after.state.isBusy d = before.state.isBusy d
  | panel => after.state.historyVisible = before.state.historyVisible
  | log => after.history = before.history
  | inFlight => (after.inFlight, after.unsent) = (before.inFlight, before.unsent)
  | calls => after.calls = before.calls

variable {s t u : Session} {part : Part}

theorem Part.Kept.refl (part : Part) (s : Session) : part.Kept s s := by
  cases part <;> rfl

theorem Part.Kept.trans (h : part.Kept s t) (k : part.Kept t u) : part.Kept s u := by
  cases part <;> exact Eq.trans k h

/-- The parts make up the session. -/
theorem eq_of_kept (h : ∀ part : Part, part.Kept s t) : t = s := by
  obtain ⟨⟨direction, ⟨sql, mongo⟩, outcome, ⟨sqlBusy, mongoBusy⟩, visible⟩, log, inFlight, unsent,
    calls⟩ := s
  obtain ⟨⟨_, ⟨_, _⟩, _, ⟨_, _⟩, _⟩, _, _, _, _⟩ := t
  cases h .direction
  cases h (.buffer .sqlToMongo)
  cases h (.buffer .mongoToSql)
  cases h .outcome
  cases h (.flag .sqlToMongo)
  cases h (.flag .mongoToSql)
  cases h .panel
  cases h .log
  cases h .inFlight
  cases h .calls
  rfl

/-! ## What a change touches -/

/-- The parts that an accepted submission touches. The service is not called by it. -/
def sentParts (d : Direction) : List Part :=
  [.flag d, .inFlight]

/-- The parts that loading an entry touches. -/
def loadedParts (entry : HistoryEntry) : List Part :=
  [.direction, .buffer entry.direction, .outcome, .panel]

/-- The parts that a change may touch. -/
def Op.parts (s : Session) : Op → List Part
  | .setDirection _ => [.direction]
  | .edit d _ => [.buffer d]
  | .submit => if s.state.submitEnabled then sentParts s.state.direction else []
  | .poll => [.inFlight, .calls]
  | .complete d _ _ => [.outcome, .flag d, .log, .inFlight, .calls]
  | .toggleHistory => [.panel]
  | .clearHistory => [.log]
  | .load entry => loadedParts entry

theorem kept_edit {d : Direction} {text : String} (h : part ≠ .buffer d) :
    part.Kept s (s.edit d text) := by
  cases part with
  | buffer e =>
      have hne : e ≠ d := fun heq => h (heq ▸ rfl)
      exact (PerDirection.get_set _ _ _ _).trans (if_neg hne)
  | _ => rfl

/-- A request that goes out raises one flag and is one more in flight; nothing else is touched. -/
theorem kept_send (h : part ∉ sentParts s.state.direction) : part.Kept s s.send := by
  cases part with
  | flag e =>
      have hne : e ≠ s.state.direction := by
        rintro rfl
        exact h List.mem_cons_self
      exact (isBusy_send e s).trans (if_neg hne)
  | inFlight => exact absurd (by simp [sentParts]) h
  | _ => rfl

/-- A reply touches neither a buffer, nor the selected direction, nor the panel, nor the other
flag. -/
theorem kept_applyOutcome {request : Request} {outcome : Outcome} {now : Instant}
    (h : part ∉ [.outcome, .flag request.direction, .log, .inFlight, .calls]) :
    part.Kept s (s.applyOutcome request outcome now) := by
  cases part with
  | flag e =>
      have hne : e ≠ request.direction := by
        rintro rfl
        simp at h
      exact (isBusy_applyOutcome e s request outcome now).trans (if_neg hne)
  | outcome => simp at h
  | log => simp at h
  | inFlight => simp at h
  | calls => simp at h
  | _ => rfl

/-- Loading an entry touches neither flags, nor requests, nor the log, nor the other buffer. -/
theorem kept_load {entry : HistoryEntry} (h : part ∉ loadedParts entry) :
    part.Kept s (s.load entry) := by
  cases part with
  | buffer e =>
      have hne : e ≠ entry.direction := by
        rintro rfl
        simp [loadedParts] at h
      exact (PerDirection.get_set _ _ _ _).trans (if_neg hne)
  | direction => simp [loadedParts] at h
  | outcome => simp [loadedParts] at h
  | panel => simp [loadedParts] at h
  | _ => rfl

/-- A change keeps what it does not touch. -/
theorem kept_step {op : Op} (h : part ∉ op.parts s) : part.Kept s (s.step op) := by
  cases op with
  | setDirection d =>
      cases part with
      | direction => exact absurd List.mem_cons_self h
      | _ => rfl
  | edit d text => exact kept_edit fun heq => h (heq ▸ List.mem_cons_self)
  | submit =>
      -- A submission that is refused touches nothing, so it is told from one that goes out.
      rw [Op.parts] at h
      split at h
      · rename_i henabled
        rw [step_submit_of_accepted ((submit_fst s).trans henabled)]
        exact kept_send h
      · rename_i hdisabled
        rw [step_submit_of_refused ((submit_fst s).trans (Bool.eq_false_iff.2 hdisabled))]
        exact .refl part s
  | poll =>
      cases part with
      | inFlight => exact absurd List.mem_cons_self h
      | calls => exact absurd (List.mem_cons_of_mem _ List.mem_cons_self) h
      | _ => rfl
  | complete d outcome now =>
      cases hp : s.pending? d with
      | none =>
          rw [step_complete_of_none hp]
          exact .refl part s
      | some request =>
          -- The request that the reply answers is one of its direction.
          rw [step_complete_of_pending hp]
          rw [Op.parts, ← direction_of_pending hp] at h
          exact kept_applyOutcome h
  | toggleHistory =>
      cases part with
      | panel => exact absurd List.mem_cons_self h
      | _ => rfl
  | clearHistory =>
      cases part with
      | log => exact absurd List.mem_cons_self h
      | _ => rfl
  | load entry => exact kept_load h

/-- A run keeps what none of its changes touches. -/
theorem kept_run {ops : List Op} (h : ∀ m ∈ s.moments ops, part ∉ m.op.parts m.before) :
    part.Kept s (s.run ops) := by
  induction ops generalizing s with
  | nil => exact .refl part s
  | cons op ops ih =>
      rw [moments, List.forall_mem_cons] at h
      exact (kept_step h.1).trans (ih h.2)

end QueryBridge.Session
