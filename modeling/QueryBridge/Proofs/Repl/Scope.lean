import QueryBridge.Proofs.Repl.EntryNumber
import QueryBridge.Proofs.Repl.Submitting
import QueryBridge.Proofs.Session.Parts
import QueryBridge.Proofs.View.Batches

/-!
# What a line changes

The parts of a session that a line is about follow from what the line means (`scope`). Many lines
are about none: an empty line, one that only shows something or that nobody knows, a load of an
entry that is not there, a submission that is refused. Such a line leaves the interactive session as
it is, the view and what the view remembers included (`handleLine_of_scope_eq_nil`). Every other
line keeps the parts that it is not about (`kept_handleLine`), since each of the changes that it
makes keeps them.

A view that has rendered its session is in step with it behind every line (`Shown.inSync`), also
where the line returned early. So rendering once more writes nothing (`render_of_inSync`), and the
next change is told on its own.
-/

set_option autoImplicit false

namespace QueryBridge.Repl

open Session (Part sentParts loadedParts)

/-! ## The scope of a line -/

/-- The parts of a session that a command is about. -/
def commandScope (s : Session) : Command → List Part
  | .direction _ | .switch => [.direction]
  | .draft _ => [.buffer s.state.direction]
  | .submit => if s.state.submitEnabled then sentParts s.state.direction else []
  | .history => [.panel]
  | .load (some number) => (s.history.get? (number - 1)).elim [] loadedParts
  | .clear => [.log]
  | .load none | .copy | .status | .config | .help | .quit | .unknown _ => []

/-- The parts of a session that a line is about. A query is put into the buffer, and goes out if the
selected direction is free. -/
def scope (s : Session) : Input → List Part
  | .empty => []
  | .text _ => .buffer s.state.direction ::
      if s.state.isBusy s.state.direction then [] else sentParts s.state.direction
  | .command command => commandScope s command

section Scope

variable {s : Session} {m : Session.Moment}

/-- The changes that a command makes are within its scope. -/
theorem parts_subset_commandScope {command : Command} (hm : m ∈ s.moments (commandOps s command)) :
    m.op.parts m.before ⊆ commandScope s command := by
  cases command with
  | load number =>
      cases number with
      | none => cases hm
      | some number =>
          rw [commandOps] at hm
          rw [commandScope]
          cases hentry : s.history.get? (number - 1) with
          | none =>
              rw [hentry] at hm
              cases hm
          | some entry =>
              rw [hentry] at hm
              rw [List.mem_singleton.1 hm]
              exact List.Subset.refl _
  | copy => cases hm
  | status => cases hm
  | config => cases hm
  | help => cases hm
  | quit => cases hm
  | unknown text => cases hm
  -- Any other command makes one change, and is about what that change touches.
  | _ =>
      rw [List.mem_singleton.1 hm]
      exact List.Subset.refl _

/-- The changes that a line makes are within its scope. -/
theorem parts_subset_scope {input : Input} (hm : m ∈ s.moments (inputOps s input)) :
    m.op.parts m.before ⊆ scope s input := by
  cases input with
  | empty => cases hm
  | command command => exact parts_subset_commandScope hm
  | text query =>
      rw [scope]
      rcases List.mem_cons.1 hm with rfl | hm
      · exact List.cons_subset_cons _ (List.nil_subset _)
      · -- The edit changes neither the selected direction nor its flag.
        rw [List.mem_singleton.1 hm]
        refine List.subset_cons_of_subset _ ?_
        have hflag : (s.step (.edit s.state.direction query)).state.isBusy s.state.direction =
            s.state.isBusy s.state.direction := rfl
        have hselected : (s.step (.edit s.state.direction query)).state.direction =
            s.state.direction := rfl
        rw [Session.Op.parts, SessionState.submitEnabled, hselected, hflag]
        cases s.state.isBusy s.state.direction with
        | true => exact List.nil_subset _
        | false =>
            rw [if_neg Bool.false_ne_true]
            split
            · exact List.Subset.refl _
            · exact List.nil_subset _

/-- No line is about the calls of the service: requests that go out are called for when they are
polled. -/
theorem calls_not_mem_scope (s : Session) (input : Input) : .calls ∉ scope s input := by
  have hsent (d : Direction) : .calls ∉ sentParts d := by simp [sentParts]
  -- Neither the parts that a submission touches nor those of any other line hold the calls.
  cases input with
  | empty => exact List.not_mem_nil
  | text query =>
      rw [scope]
      split
      · simp
      · simp [hsent]
  | command command =>
      rw [scope]
      cases command with
      | submit =>
          rw [commandScope]
          split
          · exact hsent _
          · exact List.not_mem_nil
      | load number =>
          cases number with
          | none => exact List.not_mem_nil
          | some number =>
              rw [commandScope]
              cases s.history.get? (number - 1) with
              | none => exact List.not_mem_nil
              | some entry => simp [loadedParts]
      | _ => simp [commandScope]

end Scope

section Lines

variable {repl : Repl} {line : String} {part : Part}

/-- A line keeps the parts that it is not about. -/
theorem kept_handleLine (h : part ∉ scope repl.session (Input.parse line)) :
    part.Kept repl.session (repl.handleLine line).2.1.session := by
  rw [session_handleLine]
  exact Session.kept_run fun m hm hin => h (parts_subset_scope hm hin)

theorem apply_copyResult_fst (repl : Repl) : (repl.apply .copyResult).1 = repl := by
  rw [apply, Console.dispatch, Intent.apply]
  cases repl.console.session.state.outcome <;> rfl

/-- A command that is about nothing leaves all as it is, the view included. -/
theorem handleCommand_of_scope_eq_nil {command : Command}
    (h : commandScope repl.session command = []) :
    (repl.handleCommand command).2.1 = repl := by
  cases command with
  | submit =>
      have hdisabled : repl.state.submitEnabled = false := by
        cases henabled : repl.state.submitEnabled with
        | false => rfl
        | true =>
            have hscope : commandScope repl.session .submit = sentParts repl.state.direction :=
              if_pos henabled
            rw [hscope] at h
            cases h
      exact congrArg Prod.fst (submit_of_disabled hdisabled)
  | load number =>
      cases number with
      | none => rfl
      | some number =>
          rw [commandScope] at h
          cases hentry : repl.session.history.get? (number - 1) with
          | none => exact congrArg Prod.fst (apply_selectEntry_of_none hentry)
          | some entry =>
              rw [hentry] at h
              cases h
  | copy => exact apply_copyResult_fst repl
  | direction d => cases h
  | switch => cases h
  | draft text => cases h
  | history => cases h
  | clear => cases h
  -- Any other command only shows something.
  | _ => rfl

/-- A line that is about nothing leaves all as it is, the view included. -/
theorem handleLine_of_scope_eq_nil (h : scope repl.session (Input.parse line) = []) :
    (repl.handleLine line).2.1 = repl := by
  rw [handleLine]
  cases hinput : Input.parse line with
  | empty => rfl
  | text query =>
      rw [hinput] at h
      cases h
  | command command =>
      rw [hinput] at h
      exact handleCommand_of_scope_eq_nil h

/-! ## The view behind a line -/

/-- What the view has rendered need not be rendered again. -/
theorem render_of_inSync (h : repl.InSync) : repl.render = (repl, []) := by
  have hconsole : repl.console.render = (repl.console, []) := Console.render_of_inSync h
  rw [render, hconsole]
  rfl

/-- An interactive session that a course has led to after the first rendering. -/
def Shown (repl : Repl) : Prop :=
  ∃ config moves, repl = (new config).render.1.play moves

/-- After the first rendering, the view is in step at all times. -/
theorem Shown.inSync (h : repl.Shown) : repl.InSync := by
  obtain ⟨config, moves, rfl⟩ := h
  -- Every move shows the session as it then is, or leaves it and the view alone.
  induction moves using List.reverseRecOn with
  | nil => exact render_inSync (new config)
  | append_singleton moves m ih =>
      rw [play_append]
      rcases move_inSync_or_unmoved ((new config).render.1.play moves) m with hshows | hsame
      · exact hshows
      · exact hsame.inSync ih

theorem inSync_handleLine (h : repl.InSync) (line : String) :
    (repl.handleLine line).2.1.InSync := by
  rcases handleLine_inSync_or_same repl line with hshows | hsame
  · exact hshows
  · rwa [hsame]

/-! ## Leaving -/

/-- Only the command to leave ends the session. -/
theorem handleLine_fst_eq_false_iff :
    (repl.handleLine line).1 = false ↔ Input.parse line = .command .quit := by
  rw [Repl.handleLine]
  cases Input.parse line with
  | empty => exact iff_of_false Bool.noConfusion Input.noConfusion
  | text query => exact iff_of_false Bool.noConfusion Input.noConfusion
  | command command =>
      rw [Input.command.injEq]
      cases command with
      | quit => exact iff_of_true rfl rfl
      | load number => cases number <;> exact iff_of_false Bool.noConfusion Command.noConfusion
      | _ => exact iff_of_false Bool.noConfusion Command.noConfusion

end Lines

/-! ## Each line changes what it is about -/

/-- A line changes only what it is about, and the view has nothing to add behind it. -/
structure StaysInScope (repl : Repl) (line : String) : Prop where
  /-- What the line is not about is as it was. -/
  kept : ∀ part, part ∉ scope repl.session (Input.parse line) →
    part.Kept repl.session (repl.handleLine line).2.1.session
  /-- A line that is about nothing changes nothing, in the view neither. -/
  idle : scope repl.session (Input.parse line) = [] → (repl.handleLine line).2.1 = repl
  /-- The service is not called by any line. -/
  uncalled : (repl.handleLine line).2.1.session.calls = repl.session.calls
  /-- A submission that is accepted raises the flag of the selected direction and makes one
  request. -/
  sent : Input.parse line = .command .submit → repl.state.submitEnabled = true →
    Session.Sends repl.session (repl.handleLine line).2.1.session
  /-- Rendering behind the line writes nothing and changes nothing. -/
  settled : (repl.handleLine line).2.1.render = ((repl.handleLine line).2.1, [])
  /-- The line ends the session if and only if its command word is one of three. -/
  leaves : (repl.handleLine line).1 = false ↔
    ∃ word rest, Text.trim line.toList = '/' :: (word.toList ++ rest) ∧
      (∀ c ∈ rest.head?, Text.isSpace c = true) ∧ word ∈ ["quit", "exit", "q"]

/-- After the first rendering, every line changes only what it is about: none of the session, of the
requests in flight and of what the view remembers if it is about nothing, and else the parts that it
names. The service has the same calls behind every line. Words behind a command that takes none have
no effect. -/
theorem lines_stay_in_scope {repl : Repl} (h : repl.Shown) :
    (∀ line, StaysInScope repl line) ∧
    ∀ word ∈ Command.words, word ≠ "draft" → word ≠ "load" →
      ∀ rest : List Char, (∀ c ∈ rest.head?, Text.isSpace c = true) →
        repl.handleLine (String.ofList ('/' :: (word.toList ++ rest))) =
          repl.handleLine (String.ofList ('/' :: word.toList)) := by
  constructor
  · intro line
    refine ⟨fun part => kept_handleLine, handleLine_of_scope_eq_nil, ?_, ?_, ?_, ?_⟩
    · exact kept_handleLine (calls_not_mem_scope repl.session (Input.parse line))
    · intro hp henabled
      have haccepted : repl.session.submit.1 = true := (submit_session_fst repl).trans henabled
      rw [session_handleLine, hp]
      exact (Session.submitAgrees repl.session).accepted haccepted
    · exact render_of_inSync (inSync_handleLine h.inSync line)
    · -- Only the command to leave ends the session, and only three words stand for it.
      rw [handleLine_fst_eq_false_iff, Input.parse_eq_command_iff]
      simp only [Command.means_quit_iff]
      constructor
      · rintro ⟨behind, htrim, word, rest, rfl, hrest⟩
        exact ⟨word, rest, htrim, hrest⟩
      · rintro ⟨word, rest, htrim, hrest⟩
        exact ⟨word.toList ++ rest, htrim, word, rest, rfl, hrest⟩
  · intro word hword hdraft hload rest hrest
    rw [handleLine, handleLine, Input.parse_word_append hword hdraft hload hrest]

/-- A session with one entry in its history, in which the other direction is selected then. -/
def turnedAround : Repl :=
  (new ⟨"http://localhost:5000", 30000, .sqlToMongo⟩).render.1.play
    [.line "SELECT 1", .reply ⟨.sqlToMongo, .success "db.a.find()", 5⟩, .line "/mongo"]

/-- There is no second entry to load and nothing to submit; clearing the history leaves the buffers
alone, whatever is typed behind the word; and the session can be left. -/
theorem turnedAround_in_scope :
    turnedAround.Shown ∧
    (turnedAround.handleLine " /load 2 ").2.1 = turnedAround ∧
    (turnedAround.handleLine "/submit").2.1 = turnedAround ∧
    turnedAround.handleLine "/clear all" = turnedAround.handleLine "/clear" ∧
    (turnedAround.handleLine "/clear").2.1.state.input .sqlToMongo = "SELECT 1" ∧
    (turnedAround.handleLine "/clear").2.1.session.history ≠ turnedAround.session.history ∧
    (turnedAround.handleLine "/clear").2.1.render.2 = [] ∧
    (turnedAround.handleLine "/q !").1 = false := by
  have hshown : turnedAround.Shown := ⟨_, _, rfl⟩
  obtain ⟨hlines, hwords⟩ := lines_stay_in_scope hshown
  refine ⟨hshown, (hlines _).idle (by decide), (hlines _).idle (by decide), ?_, ?_,
    by decide, ?_, ?_⟩
  · exact hwords "clear" (by decide) (by decide) (by decide) " all".toList
      (Text.isSpace_of_mem_head? rfl)
  · exact (hlines "/clear").kept (.buffer .sqlToMongo) (by decide)
  · exact congrArg Prod.snd (hlines "/clear").settled
  · exact (hlines "/q !").leaves.2 ⟨"q", " !".toList, by decide,
      Text.isSpace_of_mem_head? rfl, by decide⟩

end QueryBridge.Repl
