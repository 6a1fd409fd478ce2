import QueryBridge.Proofs.Repl.Leaving

/-!
# The prompt under which things are shown

The view records the prompt that is shown, and every emission says under which prompt it was
written. Whatever is done to a session, only recording a prompt changes the record, and all
emissions carry the prompt that was recorded before (`KeepsPrompt`). So a line that is handled
without a prompt is answered without one, and so is everything that is shown on leaving
(`under_leave`).
-/

set_option autoImplicit false

namespace QueryBridge

/-- All emissions among outputs were written under a prompt, or all of them without one. -/
def Output.Under (prompt : Option String) (output : List Output) : Prop :=
  ∀ emission, Output.screen emission ∈ output → emission.prompt = prompt

namespace Output

variable {prompt : Option String} {first later : List Output}

theorem under_nil : Under prompt [] :=
  fun _ h => absurd h List.not_mem_nil

theorem Under.append (hfirst : Under prompt first) (hlater : Under prompt later) :
    Under prompt (first ++ later) := by
  intro emission h
  rcases List.mem_append.1 h with h | h
  · exact hfirst emission h
  · exact hlater emission h

theorem under_map_screen {emissions : List Emission}
    (h : ∀ emission ∈ emissions, emission.prompt = prompt) :
    Under prompt (emissions.map .screen) := by
  intro emission hmem
  obtain ⟨other, hother, heq⟩ := List.mem_map.1 hmem
  cases heq
  exact h emission hother

/-- Rows on standard output are under no prompt, so they are under any. -/
theorem under_out (lines : List Line) : Under prompt [.out lines] := by
  intro emission h
  cases List.mem_singleton.1 h

theorem under_err (lines : List Line) : Under prompt [.err lines] := by
  intro emission h
  cases List.mem_singleton.1 h

end Output

namespace View

/-- An emission carries the prompt that the view has on record. -/
theorem prompt_of_mem_emit (view : View) (lines : List Line) :
    ∀ emission ∈ view.emit lines, emission.prompt = view.prompt := by
  intro emission h
  rw [emit] at h
  split at h
  · exact absurd h List.not_mem_nil
  · rw [List.mem_singleton.1 h]

/-- An answer of the view carries the prompt on record, and leaves it there. -/
theorem prompt_respond (view : View) (call : ViewCall) :
    (view.respond call).1.prompt = view.prompt ∧
      ∀ emission ∈ (view.respond call).2, emission.prompt = view.prompt := by
  cases call with
  | render state history => exact ⟨rfl, view.prompt_of_mem_emit _⟩
  | copyResult text => exact ⟨rfl, view.prompt_of_mem_emit [Line.plain text]⟩
  | notice message => exact ⟨rfl, view.prompt_of_mem_emit [noticeLine message]⟩
  | entryLoaded entry => exact ⟨rfl, List.forall_mem_nil _⟩

theorem prompt_respondAll (view : View) (calls : List ViewCall) :
    (view.respondAll calls).1.prompt = view.prompt ∧
      ∀ emission ∈ (view.respondAll calls).2, emission.prompt = view.prompt := by
  induction calls generalizing view with
  | nil => exact ⟨rfl, List.forall_mem_nil _⟩
  | cons call rest ih =>
      obtain ⟨hprompt, hfirst⟩ := view.prompt_respond call
      obtain ⟨hlast, hothers⟩ := ih (view.respond call).1
      rw [hprompt] at hlast hothers
      refine ⟨hlast, fun emission h => ?_⟩
      rcases List.mem_append.1 h with h | h
      · exact hfirst emission h
      · exact hothers emission h

end View

namespace Repl

/-- The prompt on record stays, and all emissions carry it. -/
structure KeepsPrompt (before after : Repl) (output : List Output) : Prop where
  record : after.console.view.prompt = before.console.view.prompt
  under : Output.Under before.console.view.prompt output

namespace KeepsPrompt

theorem same (repl : Repl) {output : List Output}
    (h : Output.Under repl.console.view.prompt output) : KeepsPrompt repl repl output :=
  ⟨rfl, h⟩

theorem trans {before middle after : Repl} {first later : List Output}
    (hfirst : KeepsPrompt before middle first) (hlater : KeepsPrompt middle after later) :
    KeepsPrompt before after (first ++ later) :=
  ⟨hlater.record.trans hfirst.record, hfirst.under.append (hfirst.record ▸ hlater.under)⟩

end KeepsPrompt

/-- A gesture is shown under the prompt on record, and leaves it there. -/
theorem keepsPrompt_apply (repl : Repl) (intent : Intent) :
    KeepsPrompt repl (repl.apply intent).1 (repl.apply intent).2 := by
  obtain ⟨hrecord, hunder⟩ :=
    repl.console.view.prompt_respondAll (intent.apply repl.console.session).2
  exact ⟨hrecord, Output.under_map_screen hunder⟩

theorem keepsPrompt_render (repl : Repl) : KeepsPrompt repl repl.render.1 repl.render.2 := by
  obtain ⟨hrecord, hunder⟩ := repl.console.view.prompt_respond (.ofSession repl.console.session)
  exact ⟨hrecord, Output.under_map_screen hunder⟩

/-- A submission is shown under the prompt on record, accepted or not. -/
theorem keepsPrompt_submit (repl : Repl) : KeepsPrompt repl repl.submit.1 repl.submit.2 := by
  rw [submit]
  split
  · exact keepsPrompt_apply repl .submit
  · exact .same repl (Output.under_map_screen (View.prompt_of_mem_emit _ _))

/-- What a command says without a gesture is shown under the prompt on record. -/
theorem under_remark (repl : Repl) (command : Command) :
    Output.Under repl.console.view.prompt (repl.remark command) := by
  cases command with
  | submit => exact Output.under_map_screen (View.prompt_of_mem_emit _ _)
  | load number => exact Output.under_err _
  | status => exact Output.under_out _
  | config => exact Output.under_out _
  | help => exact Output.under_out _
  | unknown text => exact Output.under_err _
  | _ => exact Output.under_nil

theorem keepsPrompt_handleCommand (repl : Repl) (command : Command) :
    KeepsPrompt repl (repl.handleCommand command).2.1 (repl.handleCommand command).2.2 := by
  rw [handleCommand_eq]
  cases repl.gesture? command with
  | none => exact .same repl (under_remark repl command)
  | some intent => exact keepsPrompt_apply repl intent

/-- A line is answered under the prompt on record, and leaves the record alone. -/
theorem keepsPrompt_handleLine (repl : Repl) (line : String) :
    KeepsPrompt repl (repl.handleLine line).2.1 (repl.handleLine line).2.2 := by
  rw [handleLine]
  cases Input.parse line with
  | empty => exact .same repl Output.under_nil
  | text query =>
      exact (keepsPrompt_apply repl (.editInput repl.state.direction query)).trans
        (keepsPrompt_submit _)
  | command command => exact keepsPrompt_handleCommand repl command

/-- A reply is shown under the prompt on record, and leaves the record alone. -/
theorem keepsPrompt_receive (repl : Repl) (arrival : Arrival) :
    KeepsPrompt repl (repl.receive arrival).2.1 (repl.receive arrival).2.2 := by
  cases hp : repl.session.pending? arrival.direction with
  | none =>
      rw [receive_of_none hp]
      exact .same repl Output.under_nil
  | some request =>
      rw [receive_of_pending hp]
      exact ⟨(keepsPrompt_render _).record, (keepsPrompt_render _).under⟩

theorem keepsPrompt_await (repl : Repl) (arrivals : List Arrival) :
    KeepsPrompt repl (repl.await arrivals).1 (repl.await arrivals).2 := by
  induction arrivals generalizing repl with
  | nil => exact .same repl Output.under_nil
  | cons arrival rest ih =>
      by_cases hidle : repl.session.inFlight = []
      · rw [await_of_idle hidle]
        exact .same repl Output.under_nil
      · rw [await_cons hidle]
        exact (keepsPrompt_receive repl arrival).trans (ih _)

theorem under_waitingNotice (repl : Repl) (prompt : Option String) :
    Output.Under prompt repl.waitingNotice := by
  rw [waitingNotice]
  split
  · exact Output.under_out _
  · exact Output.under_nil

/-- Whatever prompt was on record, leaving a session takes it off the record first, and everything
is shown without one. -/
theorem under_leave (repl : Repl) (arrivals : List Arrival) :
    (repl.leave arrivals).1.console.view.prompt = none ∧
      Output.Under none (repl.leave arrivals).2 := by
  obtain ⟨hrecord, hunder⟩ := keepsPrompt_await (repl.setPrompt none) arrivals
  have hnotice : Output.Under none (repl.setPrompt none).waitingNotice := under_waitingNotice _ _
  exact ⟨hrecord, (hnotice.append hunder).append (Output.under_out _)⟩

end Repl

end QueryBridge
