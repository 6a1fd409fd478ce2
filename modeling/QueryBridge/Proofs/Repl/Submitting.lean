import QueryBridge.Proofs.Repl.KeptInput

/-!
# Accepted and refused submissions

Whether the selected direction can be submitted is decided in two places, by the control that the
user sees and by the guard of the session. They decide alike for every session (`SubmitAgrees`): the
direction is free and its buffer has something that is no white space. Whoever is refused finds the
session as it was. What is accepted raises the flag of the direction and makes one request, which
carries the buffer as it stands, white space included (`Sends`). It waits in flight for its first
poll; the service is not called yet.

The prompt asks the control before it submits, so it shows a hint exactly where nothing goes out,
and the hint names the cause (`HintAgrees`). What it shows otherwise is a rendering, and no
rendering is a hint.
-/

set_option autoImplicit false

namespace QueryBridge

namespace Session

/-- The flag of the selected direction goes up, its buffer joins as it stands the requests in flight
that no poll has reached yet, and nothing else changes. -/
structure Sends (before after : Session) : Prop where
  busy : after.state.isBusy before.state.direction = true
  otherBusy : ∀ d, d ≠ before.state.direction → after.state.isBusy d = before.state.isBusy d
  state : after.state = { before.state with busy := after.state.busy }
  log : after.history = before.history
  inFlight : after.inFlight =
    before.inFlight ++ [⟨before.state.direction, before.state.input before.state.direction⟩]
  unsent : after.unsent =
    before.unsent ++ [⟨before.state.direction, before.state.input before.state.direction⟩]
  calls : after.calls = before.calls

theorem sends_send (s : Session) : Sends s s.send where
  busy := (isBusy_send _ s).trans (if_pos rfl)
  otherBusy := fun d hd => (isBusy_send d s).trans (if_neg hd)
  state := rfl
  log := rfl
  inFlight := rfl
  unsent := rfl
  calls := rfl

/-- The guard of a session decides as the control for submitting does. -/
structure SubmitAgrees (s : Session) : Prop where
  control : s.submit.1 = s.state.submitEnabled
  accepted_iff : s.submit.1 = true ↔ s.state.isBusy s.state.direction = false ∧
    ∃ c ∈ (s.state.input s.state.direction).toList, Text.isSpace c = false
  refused : s.submit.1 = false → s.submit.2 = s
  accepted : s.submit.1 = true → Sends s s.submit.2

/-- The control for submitting is there exactly where the selected direction is free and its buffer
has a character that is no blank. -/
theorem submitEnabled_iff (state : SessionState) :
    state.submitEnabled = true ↔ state.isBusy state.direction = false ∧
      ∃ c ∈ (state.input state.direction).toList, Text.isSpace c = false := by
  rw [SessionState.submitEnabled, Bool.and_eq_true, Bool.not_eq_true', Bool.not_eq_true',
    SessionState.activeInput, Text.isBlank, List.all_eq_false]
  simp only [Bool.not_eq_true]

/-- The guard of a session and the control decide alike in every state. -/
theorem submitAgrees (s : Session) : SubmitAgrees s where
  control := submit_fst s
  accepted_iff := by rw [submit_fst, submitEnabled_iff]
  refused := step_submit_of_refused
  accepted := fun h => by
    have hsend : s.submit.2 = s.send := step_submit_of_accepted h
    rw [hsend]
    exact sends_send s

end Session

namespace Repl

/-- The prompt shows a hint exactly where the session accepts nothing, and the hint names the
cause. -/
structure HintAgrees (repl : Repl) : Prop where
  session : repl.submit.1.session = repl.session.submit.2
  hint_iff : ∀ message prompt, hintOutput message prompt ∈ repl.submit.2 ↔
    repl.session.submit.1 = false ∧ prompt = repl.console.view.prompt ∧
    message = if repl.state.isBusy repl.state.direction then stillTranslating repl.state.direction
      else nothingToTranslate
  refused : repl.session.submit.1 = false →
    ∃ message, repl.submit = (repl, [hintOutput message repl.console.view.prompt])
  busy_iff : (∃ prompt, hintOutput (stillTranslating repl.state.direction) prompt ∈ repl.submit.2) ↔
    repl.state.isBusy repl.state.direction = true
  blank_iff : (∃ prompt, hintOutput nothingToTranslate prompt ∈ repl.submit.2) ↔
    repl.state.isBusy repl.state.direction = false ∧
    ∀ c ∈ (repl.state.input repl.state.direction).toList, Text.isSpace c = true

section Hint

variable {repl : Repl}

/-- The session below an interactive one decides by the control that is shown. -/
theorem submit_session_fst (repl : Repl) : repl.session.submit.1 = repl.state.submitEnabled :=
  Session.submit_fst repl.session

/-- A submission is commented on exactly where it is refused, with the reason of the refusal. -/
theorem mem_submit_iff (message : String) (prompt : Option String) :
    hintOutput message prompt ∈ repl.submit.2 ↔
      repl.state.submitEnabled = false ∧ prompt = repl.console.view.prompt ∧
        message = refusal repl.state := by
  cases h : repl.state.submitEnabled with
  | false =>
      rw [submit_of_disabled h, List.mem_singleton]
      constructor
      · intro heq
        exact ⟨rfl, congrArg Emission.prompt (Output.screen.inj heq), message_of_hintOutput heq⟩
      · rintro ⟨-, rfl, rfl⟩
        rfl
  | true =>
      -- What goes out is shown by a rendering.
      rw [submit_of_enabled h, output_apply_of_render rfl]
      exact iff_of_false (hintOutput_not_mem_rendered _ _ _ _ _) fun hrefused =>
        Bool.noConfusion hrefused.1

/-- A hint is shown where the control is disabled and the hint names the cause. -/
theorem exists_mem_submit_iff (message : String) :
    (∃ prompt, hintOutput message prompt ∈ repl.submit.2) ↔
      repl.state.submitEnabled = false ∧ message = refusal repl.state := by
  simp only [mem_submit_iff]
  constructor
  · rintro ⟨prompt, hrefused, -, hmessage⟩
    exact ⟨hrefused, hmessage⟩
  · rintro ⟨hrefused, hmessage⟩
    exact ⟨_, hrefused, rfl, hmessage⟩

theorem hintAgrees (repl : Repl) : HintAgrees repl where
  session := session_submit repl
  hint_iff := fun message prompt => by
    rw [submit_session_fst]
    exact mem_submit_iff message prompt
  refused := fun h => ⟨_, submit_of_disabled ((submit_session_fst repl).symm.trans h)⟩
  busy_iff := by
    rw [exists_mem_submit_iff, refusal_eq, SessionState.submitEnabled]
    cases repl.state.isBusy repl.state.direction with
    | true => simp
    | false => simp [stillTranslating_ne]
  blank_iff := by
    rw [exists_mem_submit_iff, refusal_eq, SessionState.submitEnabled, SessionState.activeInput,
      ← Text.isBlank_iff]
    cases repl.state.isBusy repl.state.direction with
    | true => simp [(stillTranslating_ne _).symm]
    | false => simp

end Hint

/-- The control for submitting, the guard of the session and the hint at the prompt agree, whatever
the session is and whatever the other direction is doing. A submission is accepted exactly where the
control is enabled; if it is refused, it leaves no trace but the hint, which names the cause, and if
it is accepted, there is no hint and one more request in flight, with which the service has not been
called yet. -/
theorem submission_agrees :
    (∀ s : Session, s.SubmitAgrees) ∧ ∀ repl : Repl, repl.HintAgrees :=
  ⟨Session.submitAgrees, hintAgrees⟩

/-- While the one direction waits for its reply, a query that stands between white space is accepted
in the other one as it is, and the service is not called with it yet. Then that direction waits as
well, and the prompt says so; and in a buffer of no-break spaces there is nothing to submit. -/
theorem submission_agrees_waiting :
    let waiting : Repl := (new ⟨"http://localhost:5000", 30000, .sqlToMongo⟩).play
      [.line "SELECT 1", .poll, .line "/mongo", .line "/draft db.t.find()"]
    let padded : Session := waiting.session.edit .mongoToSql " db.t.find()\n"
    let blank : Repl := waiting.play [.line "/sql", .reply ⟨.sqlToMongo, .success "x", 5⟩]
    padded.submit.1 = true ∧
    padded.submit.2.inFlight = [⟨.sqlToMongo, "SELECT 1"⟩, ⟨.mongoToSql, " db.t.find()\n"⟩] ∧
    padded.submit.2.calls = [⟨.sqlToMongo, "SELECT 1"⟩] ∧
    (∃ prompt, hintOutput (stillTranslating .mongoToSql) prompt ∈ waiting.submit.1.submit.2) ∧
    (blank.session.edit .sqlToMongo "\u00a0\u00a0").submit.2 =
      blank.session.edit .sqlToMongo "\u00a0\u00a0" := by
  intro waiting padded blank
  obtain ⟨hsessions, hrepls⟩ := submission_agrees
  have haccepted : padded.submit.1 = true :=
    (hsessions padded).accepted_iff.2 ⟨by decide, 'd', by decide, by decide⟩
  have hsends := (hsessions padded).accepted haccepted
  refine ⟨haccepted, hsends.inFlight, hsends.calls, ?_, ?_⟩
  · have hselected : waiting.submit.1.state.direction = .mongoToSql := by decide
    rw [← hselected]
    exact (hrepls waiting.submit.1).busy_iff.2 (by decide)
  · exact (hsessions _).refused ((hsessions _).control.trans (by decide))

end Repl

end QueryBridge
