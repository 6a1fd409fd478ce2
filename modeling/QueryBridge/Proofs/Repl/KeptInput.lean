import QueryBridge.Proofs.Repl.Course
import QueryBridge.Proofs.Repl.Grammar
import QueryBridge.Proofs.Session.LastWriter

/-!
# Queries typed while their direction is busy

A query that is typed while its direction is busy cannot be submitted at once. It is put into the
buffer, and a hint tells the user to submit it later. The hint keeps its word: whatever happens in
between, as long as nothing else is put into that buffer, the next request of the direction carries
the query, and submitting it is accepted once the direction is free (`typed_query_is_kept`).

A query that is typed while its direction is free goes out at once. Trimming and blankness mean the
same white space, so what is left of a trimmed line is never too little to submit, and a typed query
never meets the hint that there is nothing to submit.
-/

set_option autoImplicit false

namespace QueryBridge

/-! ## Lines that are queries -/

/-- A line without the white space on either side. -/
def trimmed (line : String) : String :=
  String.ofList (Text.trim line.toList)

/-- A line that is a query stands for its trimmed text, which is not blank. -/
theorem Input.text_of_parse {line query : String} (h : Input.parse line = .text query) :
    query = trimmed line ∧ Text.isBlank query.toList = false := by
  obtain ⟨hquery, hne, -⟩ := Input.parse_eq_text_iff.1 h
  refine ⟨by rw [trimmed, ← hquery, String.ofList_toList], ?_⟩
  rw [hquery, Text.isBlank_trim, ← hquery, List.isEmpty_eq_false_iff]
  simpa using hne

/-- Whether a line puts something into the buffer of a direction: a query or a draft while the
direction is selected, or loading an entry of it. -/
def Input.rewrites (d : Direction) (s : Session) : Input → Bool
  | .text _ | .command (.draft _) => s.state.direction == d
  | .command (.load (some number)) => (s.history.get? (number - 1)).any (·.direction == d)
  | _ => false

/-! ## Runs that leave a buffer alone -/

namespace Session

/-- A change submits the buffer of the selected direction or nothing. -/
theorem submitted_step (s : Session) (op : Op) :
    ∃ sent, (s.step op).submitted = s.submitted ++ sent ∧
      ∀ request ∈ sent, request = ⟨s.state.direction, s.state.activeInput⟩ := by
  have hnone {after : Session} (h : after.submitted = s.submitted) :
      ∃ sent, after.submitted = s.submitted ++ sent ∧
        ∀ request ∈ sent, request = ⟨s.state.direction, s.state.activeInput⟩ :=
    ⟨[], h.trans (List.append_nil _).symm, List.forall_mem_nil _⟩
  -- Only an accepted submission adds to what was submitted.
  cases op with
  | submit =>
      cases hs : s.submit.1 with
      | true =>
          rw [step_submit_of_accepted hs]
          exact ⟨_, submitted_send s, fun request h => List.mem_singleton.1 h⟩
      | false =>
          rw [step_submit_of_refused hs]
          exact hnone rfl
  | complete d outcome now =>
      cases hq : s.inFlightOf d with
      | nil =>
          rw [step_complete_of_nil hq]
          exact hnone rfl
      | cons request rest =>
          rw [step_complete_of_cons hq]
          exact hnone (submitted_applyOutcome s request outcome now)
  | poll => exact hnone (submitted_poll s)
  | setDirection d => exact hnone rfl
  | edit d text => exact hnone rfl
  | toggleHistory => exact hnone rfl
  | clearHistory => exact hnone rfl
  | load entry => exact hnone rfl

/-- A run that puts nothing into the buffer of a direction keeps its text, and what it submits in
that direction carries this text. -/
theorem run_of_untouched {d : Direction} {ops : List Op} (h : ∀ op ∈ ops, op.text? d = none)
    (s : Session) :
    (s.run ops).state.input d = s.state.input d ∧
      ∃ sent, (s.run ops).submitted = s.submitted ++ sent ∧
        ∀ request ∈ sent, request.direction = d → request.text = s.state.input d := by
  induction ops generalizing s with
  | nil => exact ⟨rfl, [], (List.append_nil _).symm, List.forall_mem_nil _⟩
  | cons op ops ih =>
      rw [List.forall_mem_cons] at h
      obtain ⟨hfirst, hrest⟩ := h
      have hkept : (s.step op).state.input d = s.state.input d := by
        rw [input_step, hfirst]
        rfl
      -- The change submits the buffer of the selected direction; if this is `d`, it is the kept
      -- text.
      obtain ⟨hinput, later, hsubmitted, hlater⟩ := ih hrest (s.step op)
      obtain ⟨sent, hsent, hnow⟩ := submitted_step s op
      refine ⟨hinput.trans hkept, sent ++ later, ?_, ?_⟩
      · rw [run_cons, hsubmitted, hsent, List.append_assoc]
      · intro request hmem hd
        rcases List.mem_append.1 hmem with hm | hm
        · have hrequest := hnow request hm
          subst hrequest
          exact congrArg s.state.input hd
        · exact (hlater request hm hd).trans hkept

end Session

namespace Repl

/-! ## Courses that leave a buffer alone -/

/-- Whether a move puts something into the buffer of a direction. -/
def Move.rewrites (d : Direction) (s : Session) : Move → Bool
  | .line text => (Input.parse text).rewrites d s
  | .poll | .reply _ | .render | .prompt _ => false

/-- Whether no move of a course puts something into the buffer of a direction. -/
def spares (d : Direction) (repl : Repl) : List Move → Bool
  | [] => true
  | m :: moves => !m.rewrites d repl.session && (repl.move m).1.spares d moves

/-- A line that does not rewrite a buffer makes no change that does. -/
theorem text?_of_mem_inputOps {d : Direction} {s : Session} {input : Input}
    (h : input.rewrites d s = false) : ∀ op ∈ inputOps s input, op.text? d = none := by
  -- While another direction is selected, an edit goes to that one's buffer.
  have hedit {text : String} (hd : (s.state.direction == d) = false) :
      Session.Op.text? d (.edit s.state.direction text) = none :=
    if_neg (Ne.symm (beq_eq_false_iff_ne.1 hd))
  cases input with
  | empty => exact List.forall_mem_nil _
  | text query => exact List.forall_mem_cons.2 ⟨hedit h, List.forall_mem_singleton.2 rfl⟩
  | command command =>
      cases command with
      | draft text => exact List.forall_mem_singleton.2 (hedit h)
      | load number =>
          cases number with
          | none => exact List.forall_mem_nil _
          | some number =>
              intro op hop
              rw [inputOps, commandOps, Option.mem_toList] at hop
              obtain ⟨entry, hentry, rfl⟩ := Option.map_eq_some_iff.1 hop
              rw [Input.rewrites, hentry, Option.any_some, beq_eq_false_iff_ne] at h
              exact if_neg (Ne.symm h)
      | direction e => exact List.forall_mem_singleton.2 rfl
      | switch => exact List.forall_mem_singleton.2 rfl
      | submit => exact List.forall_mem_singleton.2 rfl
      | history => exact List.forall_mem_singleton.2 rfl
      | clear => exact List.forall_mem_singleton.2 rfl
      | copy => exact List.forall_mem_nil _
      | status => exact List.forall_mem_nil _
      | config => exact List.forall_mem_nil _
      | help => exact List.forall_mem_nil _
      | quit => exact List.forall_mem_nil _
      | unknown text => exact List.forall_mem_nil _

theorem Move.text?_of_mem_ops {d : Direction} {s : Session} {m : Move}
    (h : m.rewrites d s = false) : ∀ op ∈ m.ops s, op.text? d = none := by
  cases m with
  | line text => exact text?_of_mem_inputOps h
  | poll => exact List.forall_mem_singleton.2 rfl
  | reply arrival => exact List.forall_mem_singleton.2 rfl
  | render => exact List.forall_mem_nil _
  | prompt message => exact List.forall_mem_nil _

/-- A course that spares a buffer makes no change that writes to it. -/
theorem text?_of_mem_playOps {d : Direction} {repl : Repl} {moves : List Move}
    (h : repl.spares d moves = true) : ∀ op ∈ repl.playOps moves, op.text? d = none := by
  induction moves generalizing repl with
  | nil => exact List.forall_mem_nil _
  | cons m moves ih =>
      rw [spares, Bool.and_eq_true, Bool.not_eq_true'] at h
      intro op hop
      rw [playOps, List.mem_append] at hop
      rcases hop with hop | hop
      · exact Move.text?_of_mem_ops h.1 op hop
      · exact ih h.2 op hop

/-! ## What handling a query puts out -/

/-- The hint that the selected direction is busy. -/
def stillTranslating (d : Direction) : String :=
  "Still translating " ++ d.label ++ "; input kept, use /submit once it finishes"

/-- The hint that there is nothing to submit. -/
def nothingToTranslate : String :=
  "Nothing to translate, type a query or use /draft"

theorem stillTranslating_ne (d : Direction) : stillTranslating d ≠ nothingToTranslate := by
  cases d <;> decide

/-- Whoever is refused gets one of the two hints. -/
theorem refusal_eq (state : SessionState) :
    refusal state = if state.isBusy state.direction then stillTranslating state.direction
      else nothingToTranslate :=
  rfl

/-- A rendering has rows in the style of a hint in the history panel only, so the title of the panel
is there too. -/
theorem panelTitle_of_hint_mem {view : View} {state : SessionState} {history : History}
    {message : String} (h : [Style.hint.paint message] ∈ view.transitionLines state history) :
    View.panelTitle ∈ view.transitionLines state history := by
  simp only [View.transitionLines, List.mem_append] at h ⊢
  rcases h with (((h | h) | h) | h) | h
  -- Rows about the direction have several spans.
  · unfold View.directionLines at h
    split at h
    · simp [View.inputLine] at h
    · split at h
      · split at h <;> simp [View.inputLine] at h
      · simp at h
  · simp [View.startLines] at h
  · unfold View.outcomeLines at h
    split at h
    · cases hout : state.outcome <;>
        simp [hout, View.resultLines, Line.empty] at h
    · simp at h
  · unfold View.clearedLines at h
    split at h <;> simp at h
  · refine .inr ?_
    unfold View.panelLines at h ⊢
    split at h
    · split at h
      · rename_i hvisible hdue
        rw [if_pos hvisible, if_pos hdue]
        exact List.mem_cons_self
      · simp at h
    · split at h <;> simp at h

/-- What a hint puts out. -/
def hintOutput (message : String) (prompt : Option String) : Output :=
  .screen ⟨[[Style.hint.paint message]], prompt⟩

/-- Hints are told apart by their messages. -/
theorem message_of_hintOutput {message other : String} {prompt shown : Option String}
    (h : hintOutput message prompt = hintOutput other shown) : message = other := by
  simp only [hintOutput, Output.screen.injEq, Emission.mk.injEq, List.cons.injEq, Style.paint_inj,
    true_and, and_true] at h
  exact h.1

/-- No rendering is a hint. -/
theorem hintOutput_not_mem_rendered (view : View) (state : SessionState) (history : History)
    (message : String) (prompt : Option String) :
    hintOutput message prompt ∉
      (view.emit (view.transitionLines state history)).map Output.screen := by
  intro h
  obtain ⟨emission, hemission, heq⟩ := List.mem_map.1 h
  cases Output.screen.inj heq
  unfold View.emit at hemission
  split at hemission
  · exact absurd hemission List.not_mem_nil
  · have hlines : [[Style.hint.paint message]] = view.transitionLines state history :=
      congrArg Emission.lines (List.mem_singleton.1 hemission)
    have htitle := panelTitle_of_hint_mem (hlines ▸ List.mem_singleton_self _)
    -- The title of the panel would be the hint.
    rw [← hlines, List.mem_singleton] at htitle
    simp [View.panelTitle] at htitle

/-! ## Handling a query -/

section Query

variable {repl : Repl} {line query : String}

/-- What an intent puts out that only changes the session and has it rendered. -/
theorem output_apply_of_render {intent : Intent} {after : Session}
    (h : intent.apply repl.session = (after, [.ofSession after])) :
    (repl.apply intent).2 =
      (repl.console.view.emit (repl.console.view.transitionLines after.state after.history)).map
        Output.screen := by
  rw [session] at h
  rw [apply, Console.dispatch, h]
  exact congrArg (fun answer => answer.2.map Output.screen)
    (Console.respondAll_singleton (ViewCall.ofSession after))

/-- The session with a query in the buffer of the selected direction. -/
def typed (repl : Repl) (query : String) : Repl :=
  (repl.apply (.editInput repl.state.direction query)).1

/-- A query is put into the buffer of the selected direction, and then submitted. -/
theorem handleLine_text (hp : Input.parse line = .text query) :
    repl.handleLine line = (true, (repl.typed query).submit.1,
      (repl.apply (.editInput repl.state.direction query)).2 ++ (repl.typed query).submit.2) := by
  rw [handleLine, hp]
  rfl

/-- A query with words can be submitted exactly where the selected direction is free. -/
theorem submitEnabled_typed (hblank : Text.isBlank query.toList = false) :
    (repl.typed query).state.submitEnabled = !repl.state.isBusy repl.state.direction := by
  have hinput : (repl.typed query).state.activeInput = query := PerDirection.get_set_self _ _ _
  rw [SessionState.submitEnabled, hinput, hblank]
  exact Bool.and_true _

/-- Where the control for submitting is disabled, the hint is all that submitting does. -/
theorem submit_of_disabled (h : repl.state.submitEnabled = false) :
    repl.submit = (repl, [hintOutput (refusal repl.state) repl.console.view.prompt]) := by
  rw [submit, h]
  rfl

theorem submit_of_enabled (h : repl.state.submitEnabled = true) :
    repl.submit = repl.apply .submit := by
  rw [submit, h]
  rfl

/-- On a busy direction the query stays in its buffer, and the hint says that the direction is still
busy. -/
theorem submit_typed_of_busy (hblank : Text.isBlank query.toList = false)
    (hbusy : repl.state.isBusy repl.state.direction = true) :
    (repl.typed query).submit = (repl.typed query,
      [hintOutput (stillTranslating repl.state.direction) repl.console.view.prompt]) := by
  have hrefusal : refusal (repl.typed query).state = stillTranslating repl.state.direction :=
    (refusal_eq _).trans (if_pos hbusy)
  rw [submit_of_disabled ((submitEnabled_typed hblank).trans (congrArg (!·) hbusy)), hrefusal]
  rfl

theorem submit_typed_of_free (hblank : Text.isBlank query.toList = false)
    (hfree : repl.state.isBusy repl.state.direction = false) :
    (repl.typed query).submit = (repl.typed query).apply .submit :=
  submit_of_enabled ((submitEnabled_typed hblank).trans (congrArg (!·) hfree))

/-- While the selected direction is busy, a query is put into the buffer, and the hint is all that
is shown. -/
theorem handleLine_text_of_busy (hsync : repl.InSync) (hp : Input.parse line = .text query)
    (hbusy : repl.state.isBusy repl.state.direction = true) :
    repl.handleLine line = (true, repl.typed query,
      [hintOutput (stillTranslating repl.state.direction) repl.console.view.prompt]) := by
  have hedit : (repl.apply (.editInput repl.state.direction query)).2 = [] := by
    have hlines := View.InSync.lines_of_inputs hsync
      (repl.state.inputs.set repl.state.direction query)
    rw [output_apply_of_render rfl]
    exact congrArg (fun lines => (repl.console.view.emit lines).map Output.screen) hlines
  rw [handleLine_text hp, hedit, submit_typed_of_busy (Input.text_of_parse hp).2 hbusy]
  rfl

/-- While the selected direction is free, a query goes out. -/
theorem session_handleLine_text_of_free (hp : Input.parse line = .text query)
    (hfree : repl.state.isBusy repl.state.direction = false) :
    (repl.handleLine line).2.1.session =
      (repl.session.edit repl.state.direction query).send := by
  have hblank := (Input.text_of_parse hp).2
  -- The edit comes first, and what it puts into the buffer is not blank.
  have haccepted : (repl.typed query).session.submit.1 = true := by
    rw [Session.submit_fst]
    exact (submitEnabled_typed hblank).trans (congrArg (!·) hfree)
  rw [handleLine_text hp, session_submit, Session.step_submit_of_accepted haccepted]
  rfl

/-- A query has words, so it is never called nothing to translate. -/
theorem nothingToTranslate_not_mem_of_text (hp : Input.parse line = .text query)
    (prompt : Option String) :
    hintOutput nothingToTranslate prompt ∉ (repl.handleLine line).2.2 := by
  have hblank := (Input.text_of_parse hp).2
  rw [handleLine_text hp, List.mem_append, not_or]
  -- Neither the edit nor what follows it puts the hint out.
  constructor
  · rw [output_apply_of_render rfl]
    exact hintOutput_not_mem_rendered _ _ _ _ prompt
  · cases hbusy : repl.state.isBusy repl.state.direction with
    | true =>
        rw [submit_typed_of_busy hblank hbusy, List.mem_singleton]
        exact fun h => stillTranslating_ne _ (message_of_hintOutput h).symm
    | false =>
        rw [submit_typed_of_free hblank hbusy, output_apply_of_render rfl]
        exact hintOutput_not_mem_rendered _ _ _ _ prompt

/-- Where the selected direction is free and its buffer is not blank, submitting it is accepted. -/
theorem session_handleLine_submit (hp : Input.parse line = .command .submit)
    (hfree : repl.state.isBusy repl.state.direction = false)
    (hblank : Text.isBlank repl.state.activeInput.toList = false) :
    (repl.handleLine line).2.1.session = repl.session.send := by
  have haccepted : repl.session.submit.1 = true := by
    rw [Session.submit_fst]
    change (!repl.state.isBusy repl.state.direction &&
      !Text.isBlank repl.state.activeInput.toList) = true
    rw [hfree, hblank]
    rfl
  rw [session_handleLine, hp]
  exact Session.step_submit_of_accepted haccepted

end Query

/-! ## The hint keeps its word -/

/-- Over every course that leaves the buffer of a direction alone, what goes out in the direction
carries the text that was in its buffer; and where the direction is selected and free, submitting
sends this text, unless it is blank. -/
theorem sent_over_course {repl : Repl} {d : Direction} {query : String}
    (hinput : repl.state.input d = query) (hblank : Text.isBlank query.toList = false)
    {moves : List Move} (hspares : repl.spares d moves = true) :
    let later := repl.play moves
    (∃ sent, later.session.submitted = repl.session.submitted ++ sent ∧
      ∀ request ∈ sent, request.direction = d → request.text = query) ∧
    ∀ submission, Input.parse submission = .command .submit → later.state.direction = d →
      later.state.isBusy d = false →
      (later.handleLine submission).2.1.session.submitted =
        later.session.submitted ++ [⟨d, query⟩] ∧
      (later.handleLine submission).2.1.session.inFlight =
        later.session.inFlight ++ [⟨d, query⟩] := by
  intro later
  obtain ⟨hkept, sent, hsubmitted, htexts⟩ :=
    Session.run_of_untouched (text?_of_mem_playOps hspares) repl.session
  have hquery : repl.session.state.input d = query := hinput
  rw [← session_play] at hkept hsubmitted
  rw [hquery] at hkept htexts
  refine ⟨⟨sent, hsubmitted, htexts⟩, ?_⟩
  intro submission hsubmission hd hfree
  have hactive : later.state.activeInput = query := by
    rw [SessionState.activeInput, hd]
    exact hkept
  have hsent : (⟨later.state.direction, later.state.activeInput⟩ : Request) = ⟨d, query⟩ := by
    rw [hactive, hd]
  have hsend := session_handleLine_submit hsubmission (hd ▸ hfree) (hactive ▸ hblank)
  rw [hsend, ← hsent]
  exact ⟨Session.submitted_send later.session, rfl⟩

/-- A line that is a query stands for its trimmed text.

While the selected direction is busy, nothing is submitted, the query is put into the buffer of that
direction, and the hint is all that is shown. From then on, over every course that puts nothing else
into this buffer, all that is submitted in the direction carries the query; and whenever the
direction is selected and free, submitting makes one request, which carries the query.

While the selected direction is free, the line makes one request, which carries the query.

The hint that there is nothing to submit is never shown for such a line. -/
theorem typed_query_is_kept {repl : Repl} (hr : repl.Reachable) {line query : String}
    (hp : Input.parse line = .text query) :
    let d := repl.state.direction
    let after := (repl.handleLine line).2.1
    query = trimmed line ∧
    (repl.state.isBusy d = true →
      repl.handleLine line =
        (true, after, [hintOutput (stillTranslating d) repl.console.view.prompt]) ∧
      after.session = repl.session.edit d query ∧ after.state.input d = query ∧
      ∀ moves, after.spares d moves = true →
        let later := after.play moves
        (∃ sent, later.session.submitted = repl.session.submitted ++ sent ∧
          ∀ request ∈ sent, request.direction = d → request.text = query) ∧
        ∀ submission, Input.parse submission = .command .submit → later.state.direction = d →
          later.state.isBusy d = false →
          (later.handleLine submission).2.1.session.submitted =
            later.session.submitted ++ [⟨d, query⟩] ∧
          (later.handleLine submission).2.1.session.inFlight =
            later.session.inFlight ++ [⟨d, query⟩]) ∧
    (repl.state.isBusy d = false →
      (repl.handleLine line).1 = true ∧
      after.session.submitted = repl.session.submitted ++ [⟨d, query⟩] ∧
      after.session.inFlight = repl.session.inFlight ++ [⟨d, query⟩]) ∧
    ∀ prompt, hintOutput nothingToTranslate prompt ∉ (repl.handleLine line).2.2 := by
  intro d after
  obtain ⟨htrimmed, hblank⟩ := Input.text_of_parse hp
  have hinput : (repl.session.edit d query).state.input d = query :=
    PerDirection.get_set_self _ _ _
  refine ⟨htrimmed, ?_, ?_, nothingToTranslate_not_mem_of_text hp⟩
  · intro hbusy
    -- A busy direction has a request in flight, so the view is in sync.
    have hpending : repl.session.inFlight ≠ [] := by
      intro hnone
      obtain ⟨request, hq⟩ := (hr.session.onePerBusy.isBusy_iff d).1 hbusy
      rw [Session.inFlightOf, hnone] at hq
      exact List.cons_ne_nil _ _ hq.symm
    have hline := handleLine_text_of_busy (hr.inSync_of_pending hpending) hp hbusy
    have hafter : after = repl.typed query := congrArg (·.2.1) hline
    have hsession : after.session = repl.session.edit d query := by
      rw [hafter]
      rfl
    have hbuffer : after.state.input d = query :=
      (congrArg (·.state.input d) hsession).trans hinput
    have hsubmitted : after.session.submitted = repl.session.submitted := by
      rw [hsession]
      rfl
    refine ⟨hafter ▸ hline, hsession, hbuffer, ?_⟩
    intro moves hspares later
    exact hsubmitted ▸ sent_over_course hbuffer hblank hspares
  · intro hfree
    have hsend : after.session = _ := session_handleLine_text_of_free hp hfree
    have hsent : (⟨d, (repl.session.edit d query).state.activeInput⟩ : Request) = ⟨d, query⟩ :=
      congrArg (Request.mk d) hinput
    rw [hsend, ← hsent]
    exact ⟨by rw [handleLine_text hp], Session.submitted_send _, rfl⟩

/-- A session at work on its first query. -/
def atWork : Repl :=
  (new ⟨"http://localhost:5000", 30000, .sqlToMongo⟩).play [.render, .line "SELECT 1"]

/-- A query is typed meanwhile; before it can be submitted, the other direction is put to work and
the reply arrives. -/
theorem atWork_typed :
    Input.parse " SELECT 2 " = .text "SELECT 2" ∧
    atWork.state.isBusy .sqlToMongo = true ∧
    let later := (atWork.handleLine " SELECT 2 ").2.1.play
      [.line "/mongo", .line "db.t.find()", .reply ⟨.sqlToMongo, .success "db.a.find()", 5⟩,
        .line "/sql"]
    (later.handleLine "/submit").2.1.session.submitted =
      later.session.submitted ++ [⟨.sqlToMongo, "SELECT 2"⟩] := by
  have hr : atWork.Reachable := ⟨_, _, rfl⟩
  have hp : Input.parse " SELECT 2 " = .text "SELECT 2" := by decide
  have hs : Input.parse "/submit" = .command .submit := by decide
  have hbusy : atWork.state.isBusy .sqlToMongo = true := by decide
  refine ⟨hp, hbusy, ?_⟩
  obtain ⟨-, hkept, -⟩ := typed_query_is_kept hr hp
  obtain ⟨-, -, -, hlater⟩ := hkept hbusy
  exact ((hlater _ (by decide)).2 _ hs (by decide) (by decide)).1

end Repl

end QueryBridge
