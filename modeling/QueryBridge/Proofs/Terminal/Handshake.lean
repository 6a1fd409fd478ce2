import QueryBridge.Proofs.Repl.PromptMode
import QueryBridge.Terminal.Handshake

/-!
# The prompt that is shown is the prompt on record

The loop and the reader of prompts take their turns in any order, replies arrive in between, and the
reader may be gone at any time. Still the two never lose step. While the loop waits, one message is
under way: it is on its way to the reader, shown, answered, or lost with the reader, and it is the
one on record in the view (`Waits`). Once the loop is over, nothing is under way (`Rests`). Each
turn keeps this (`inStep_step`).

What a turn does to the loop is said once (`LoopTurn`). From it and from the prompts that emissions
carry follows all that the user sees (`agrees_moment`). To the loop by itself, a run of both sides
is a run of its own events, cut short where a message finds no reader (`exists_run_moment`).
-/

set_option autoImplicit false

namespace QueryBridge.Terminal.Handshake

open QueryBridge.Repl

/-! ## What is under way -/

/-- Where the message is that the loop waits for an answer to. -/
inductive Whereabouts (message : String) : Reader → List String → List Answer → Prop where
  | sent : Whereabouts message .idle [message] []
  | shown : Whereabouts message (.showing message) [] []
  | returned (line : String) : Whereabouts message .idle [] [.ok line]
  | failed (failure : PromptFailure) : Whereabouts message .ended [] [.error failure]
  /-- The reader broke down behind its answer. -/
  | returnedLast (line : String) : Whereabouts message .ended [] [.ok line]
  | lost : Whereabouts message .ended [] []

section Whereabouts

variable {message : String} {reader : Reader} {prompts : List String} {answers : List Answer}

/-- Wherever the message is, it is in one place. -/
theorem Whereabouts.one (h : Whereabouts message reader prompts answers) :
    prompts.length + reader.shown.length + answers.length ≤ 1 := by
  cases h <;> simp [Reader.shown]

/-- A prompt that is shown is the one that the loop waits for. -/
theorem Whereabouts.eq_of_shown (h : Whereabouts message reader prompts answers) :
    ∀ shown ∈ reader.shown, shown = message := by
  intro shown hshown
  cases h with
  | shown => exact List.mem_singleton.1 hshown
  | sent => cases hshown
  | returned line => cases hshown
  | failed failure => cases hshown
  | returnedLast line => cases hshown
  | lost => cases hshown

theorem Whereabouts.prompts_of_ended (h : Whereabouts message .ended prompts answers) :
    prompts = [] := by
  cases h <;> rfl

/-- An answer that is on its way is the only thing that is. -/
theorem Whereabouts.alone_of_answer {answer : Answer} {rest : List Answer}
    (h : Whereabouts message reader prompts (answer :: rest)) :
    rest = [] ∧ prompts = [] ∧ reader.shown = [] := by
  cases h <;> exact ⟨rfl, rfl, rfl⟩

end Whereabouts

/-- The loop waits for the answer to a message: all messages before it were answered, and it is the
one on record in the view. -/
structure Waits (both : Handshake) (message : String) : Prop where
  phase : both.loop.phase = .waiting
  sent : ∃ earlier, both.loop.sent = earlier ++ [message] ∧ earlier.length = both.heard
  record : both.loop.repl.console.view.prompt = some message
  whereabouts : Whereabouts message both.reader both.prompts both.answers

/-- The loop is over, and nothing is under way. -/
structure Rests (both : Handshake) : Prop where
  phase : both.loop.phase ≠ .waiting
  reader : both.reader.shown = []
  prompts : both.prompts = []
  answers : both.answers = []

/-- The loop waits for an answer, or it is over. -/
def InStep (both : Handshake) : Prop :=
  (∃ message, both.Waits message) ∨ both.Rests

theorem InStep.one {both : Handshake} (h : both.InStep) :
    both.prompts.length + both.reader.shown.length + both.answers.length ≤ 1 := by
  rcases h with ⟨message, hwaits⟩ | hrests
  · exact hwaits.whereabouts.one
  · rw [hrests.prompts, hrests.reader, hrests.answers]
    exact Nat.zero_le 1

/-! ## Turns of the reader -/

section Reader

variable {both : Handshake}

/-- A turn of the reader leaves the loop alone and only moves the message. -/
theorem InStep.of_reader {after : Handshake} (h : both.InStep) (hloop : after.loop = both.loop)
    (hheard : after.heard = both.heard)
    (hmoved : ∀ message, Whereabouts message both.reader both.prompts both.answers →
      Whereabouts message after.reader after.prompts after.answers)
    (hrests : both.Rests → after.reader.shown = [] ∧ after.prompts = [] ∧ after.answers = []) :
    after.InStep := by
  rcases h with ⟨message, hphase, hsent, hrecord, hwhere⟩ | h
  · left
    refine ⟨message, ?_, ?_, ?_, hmoved message hwhere⟩
    · rw [hloop, hphase]
    · rw [hloop, hheard]
      exact hsent
    · rw [hloop, hrecord]
  · right
    obtain ⟨hreader, hprompts, hanswers⟩ := hrests h
    refine ⟨?_, hreader, hprompts, hanswers⟩
    rw [hloop]
    exact h.phase

/-- A reader that breaks down loses the message that was with it, but no answer. -/
theorem inStep_endReader (h : both.InStep) : both.endReader.InStep := by
  refine h.of_reader rfl rfl ?_ ?_
  · obtain ⟨loop, reader, prompts, answers, heard⟩ := both
    intro message hwhere
    change Whereabouts message reader prompts answers at hwhere
    cases hwhere with
    | sent => exact .lost
    | shown => exact .lost
    | returned line => exact .returnedLast line
    | failed failure => exact .failed failure
    | returnedLast line => exact .returnedLast line
    | lost => exact .lost
  · exact fun hrests => ⟨rfl, rfl, hrests.answers⟩

theorem inStep_take (h : both.InStep) : both.take.InStep := by
  obtain ⟨loop, reader, prompts, answers, heard⟩ := both
  cases reader with
  | showing message => exact h
  | ended => exact h
  | idle =>
      cases prompts with
      | nil => exact h
      | cons message rest =>
          refine h.of_reader rfl rfl ?_ ?_
          · intro other hwhere
            change Whereabouts other .idle (message :: rest) answers at hwhere
            cases hwhere
            exact .shown
          · exact fun hrests => absurd hrests.prompts (List.cons_ne_nil _ _)

/-- A prompt that returns has its answer on the way to the loop. -/
theorem inStep_give (h : both.InStep) (answer : Answer) : (both.give answer).InStep := by
  obtain ⟨⟨repl, phase, sent⟩, reader, prompts, answers, heard⟩ := both
  cases reader with
  | idle => exact h
  | ended => exact h
  | showing message =>
      cases phase with
      | broken failure => exact inStep_endReader h
      | left =>
          -- A loop that is over shows no prompt any more.
          rcases h with ⟨other, hwaits⟩ | hrests
          · cases hwaits.phase
          · cases hrests.reader
      | waiting =>
          cases answer with
          | ok line =>
              refine h.of_reader rfl rfl ?_ fun hrests => absurd rfl hrests.phase
              intro other hwhere
              change Whereabouts other (.showing message) prompts answers at hwhere
              cases hwhere
              exact .returned line
          | error failure =>
              refine h.of_reader rfl rfl ?_ fun hrests => absurd rfl hrests.phase
              intro other hwhere
              change Whereabouts other (.showing message) prompts answers at hwhere
              cases hwhere
              exact .failed failure

theorem inStep_dismiss (h : both.InStep) : both.dismiss.InStep := by
  rw [dismiss]
  split
  · exact inStep_endReader h
  · exact inStep_endReader h
  · exact h

end Reader

/-! ## Turns of the loop -/

section Loop

variable {both : Handshake}

/-- A line after which the session is to go on has the loop ask for the next one. -/
theorem handle_answered_of_goOn {loop : Loop} {line : String}
    (h : ((loop.repl.setPrompt none).handleLine line).1 = true) :
    loop.handle (.answered line) =
      (Loop.ask loop.sent ((loop.repl.setPrompt none).handleLine line).2.1,
        ((loop.repl.setPrompt none).handleLine line).2.2) := by
  rcases hline : (loop.repl.setPrompt none).handleLine line with ⟨goOn, after, output⟩
  rw [hline] at h
  cases h
  rw [Loop.handle, hline]
  rfl

/-- A line after which the session is not to go on ends the loop. -/
theorem handle_answered_of_quit {loop : Loop} {line : String}
    (h : ((loop.repl.setPrompt none).handleLine line).1 = false) :
    loop.handle (.answered line) =
      (⟨((loop.repl.setPrompt none).handleLine line).2.1, .left, loop.sent⟩,
        ((loop.repl.setPrompt none).handleLine line).2.2) := by
  rcases hline : (loop.repl.setPrompt none).handleLine line with ⟨goOn, after, output⟩
  rw [hline] at h
  cases h
  rw [Loop.handle, hline]
  rfl

/-- A prompt that failed ends the loop. -/
theorem handle_failed (loop : Loop) (failure : PromptFailure) :
    (loop.handle (.failed failure)).1.phase ≠ .waiting ∧
      (loop.handle (.failed failure)).1.sent = loop.sent ∧
      Output.Under none (loop.handle (.failed failure)).2 := by
  rw [Loop.handle]
  cases failure.isCancelled with
  | true => exact ⟨Phase.noConfusion, rfl, Output.under_out _⟩
  | false => exact ⟨Phase.noConfusion, rfl, Output.under_nil⟩

/-- A loop that is over sends no message. -/
theorem proceed_of_phase_ne_waiting {next : Loop} (h : next.phase ≠ .waiting) :
    both.proceed next = { both with loop := next } := by
  rw [proceed]
  split
  · exact absurd ‹_› h
  · exact absurd ‹_› h
  · rfl

theorem proceed_ask_of_ended (h : both.reader = .ended) (sent : List String) (repl : Repl) :
    both.proceed (Loop.ask sent repl) =
      { both with loop := ⟨repl.showPrompt, .left, both.loop.sent⟩ } := by
  rw [proceed, h]
  rfl

theorem proceed_ask (h : both.reader ≠ .ended) (sent : List String) (repl : Repl) :
    both.proceed (Loop.ask sent repl) =
      { both with
        loop := Loop.ask sent repl
        prompts := both.prompts ++ [repl.promptMessage] } := by
  rw [proceed]
  cases hreader : both.reader with
  | ended => exact absurd hreader h
  | idle => rfl
  | showing message => rfl

theorem hear_of_answer {answer : Answer} {rest : List Answer} (hphase : both.loop.phase = .waiting)
    (hanswers : both.answers = answer :: rest) :
    both.hear =
      ({ both with answers := rest, heard := both.heard + 1 }.proceed
          (both.loop.handle (eventOf answer)).1,
        (both.loop.handle (eventOf answer)).2) := by
  rw [hear, hphase, hanswers]

theorem hear_of_closed (hphase : both.loop.phase = .waiting) (hanswers : both.answers = [])
    (hreader : both.reader = .ended) :
    both.hear =
      ({ both with loop := (both.loop.handle .closed).1 }, (both.loop.handle .closed).2) := by
  rw [hear, hphase, hanswers, hreader]

/-- While a reader is there, the loop waits for its answer. -/
theorem hear_of_present (hanswers : both.answers = []) (hreader : both.reader ≠ .ended) :
    both.hear = (both, []) := by
  rw [hear, hanswers]
  cases hr : both.reader with
  | ended => exact absurd hr hreader
  | idle => cases both.loop.phase <;> rfl
  | showing message => cases both.loop.phase <;> rfl

theorem hear_of_phase_ne_waiting (h : both.loop.phase ≠ .waiting) : both.hear = (both, []) := by
  rw [hear]
  split
  · exact absurd ‹_› h
  · exact absurd ‹_› h
  · rfl

/-- A loop that asks again has its message on the way, and is over where no reader is left. -/
theorem inStep_proceed_ask (both : Handshake) (hshown : both.reader.shown = [])
    (hprompts : both.prompts = []) (hanswers : both.answers = [])
    (hheard : both.loop.sent.length = both.heard) (repl : Repl) :
    (both.proceed (Loop.ask both.loop.sent repl)).InStep := by
  cases hreader : both.reader with
  | showing message =>
      rw [hreader] at hshown
      cases hshown
  | ended =>
      rw [proceed_ask_of_ended hreader]
      right
      exact ⟨Phase.noConfusion, hshown, hprompts, hanswers⟩
  | idle =>
      have hpresent : both.reader ≠ .ended := by
        rw [hreader]
        exact Reader.noConfusion
      rw [proceed_ask hpresent]
      left
      refine ⟨repl.promptMessage, rfl, ⟨both.loop.sent, rfl, hheard⟩, rfl, ?_⟩
      simp only [hreader, hprompts, hanswers, List.nil_append]
      exact .sent

/-- A loop that is over has nothing under way. -/
theorem inStep_proceed_of_over (both : Handshake) {next : Loop} (hphase : next.phase ≠ .waiting)
    (hshown : both.reader.shown = []) (hprompts : both.prompts = [])
    (hanswers : both.answers = []) :
    (both.proceed next).InStep := by
  rw [proceed_of_phase_ne_waiting hphase]
  exact .inr ⟨hphase, hshown, hprompts, hanswers⟩

/-- The loop takes an answer only when it waits for one, and then nothing else is under way. -/
theorem inStep_hear (h : both.InStep) : both.hear.1.InStep := by
  -- A loop that waits has an answer, has lost its reader, or has to go on waiting.
  rcases h with ⟨message, hphase, ⟨earlier, hsent, hheard⟩, hrecord, hwhere⟩ | hrests
  · cases hanswers : both.answers with
    | nil =>
        by_cases hreader : both.reader = .ended
        · rw [hear_of_closed hphase hanswers hreader]
          rw [hreader] at hwhere
          right
          refine ⟨Phase.noConfusion, ?_, hwhere.prompts_of_ended, hanswers⟩
          rw [hreader]
          rfl
        · rw [hear_of_present hanswers hreader]
          exact .inl ⟨message, hphase, ⟨earlier, hsent, hheard⟩, hrecord, hwhere⟩
    | cons answer rest =>
        rw [hanswers] at hwhere
        obtain ⟨rfl, hprompts, hshown⟩ := hwhere.alone_of_answer
        have hlength : both.loop.sent.length = both.heard + 1 := by
          rw [hsent, List.length_append, List.length_singleton, hheard]
        rw [hear_of_answer hphase hanswers]
        cases answer with
        | error failure =>
            have hover := (handle_failed both.loop failure).1
            exact inStep_proceed_of_over { both with answers := [], heard := both.heard + 1 }
              hover hshown hprompts rfl
        | ok line =>
            rw [eventOf]
            cases hgo : ((both.loop.repl.setPrompt none).handleLine line).1 with
            | true =>
                rw [handle_answered_of_goOn hgo]
                exact inStep_proceed_ask { both with answers := [], heard := both.heard + 1 }
                  hshown hprompts rfl hlength _
            | false =>
                rw [handle_answered_of_quit hgo]
                dsimp only
                refine inStep_proceed_of_over { both with answers := [], heard := both.heard + 1 }
                  ?_ hshown hprompts rfl
                exact Phase.noConfusion
  · rw [hear_of_phase_ne_waiting hrests.phase]
    exact .inr hrests

/-- What changes the session of the loop, and not the record in the view, keeps the two in step. -/
theorem InStep.of_session (h : both.InStep) {repl : Repl}
    (hrecord : repl.console.view.prompt = both.loop.repl.console.view.prompt) :
    InStep { both with loop := { both.loop with repl := repl } } := by
  rcases h with ⟨message, hwaits⟩ | hrests
  · exact .inl ⟨message, hwaits.phase, hwaits.sent, hrecord.trans hwaits.record,
      hwaits.whereabouts⟩
  · exact .inr ⟨hrests.phase, hrests.reader, hrests.prompts, hrests.answers⟩

theorem step_arrive_of_waiting (h : both.loop.phase = .waiting) (arrival : Arrival) :
    both.step (.arrive arrival) =
      ({ both with
          loop := { both.loop with repl := (both.loop.repl.receive arrival).2.1 } },
        (both.loop.repl.receive arrival).2.2) := by
  rw [step, Loop.step_of_waiting h]
  rfl

theorem step_arrive_of_phase_ne_waiting (h : both.loop.phase ≠ .waiting) (arrival : Arrival) :
    both.step (.arrive arrival) = (both, []) := by
  rw [step, (Loop.step_of_phase_ne_waiting h _).1]

theorem inStep_arrive (h : both.InStep) (arrival : Arrival) :
    (both.step (.arrive arrival)).1.InStep := by
  by_cases hphase : both.loop.phase = .waiting
  · rw [step_arrive_of_waiting hphase]
    exact h.of_session (keepsPrompt_receive both.loop.repl arrival).record
  · rw [step_arrive_of_phase_ne_waiting hphase]
    exact h

theorem step_poll_of_waiting (h : both.loop.phase = .waiting) :
    both.step .poll =
      ({ both with loop := { both.loop with repl := both.loop.repl.poll } }, []) := by
  rw [step, Loop.step_of_waiting h]
  rfl

theorem step_poll_of_phase_ne_waiting (h : both.loop.phase ≠ .waiting) :
    both.step .poll = (both, []) := by
  rw [step, (Loop.step_of_phase_ne_waiting h _).1]

/-- A poll reaches requests, and leaves the record and what is under way as they are. -/
theorem inStep_poll (h : both.InStep) : (both.step .poll).1.InStep := by
  by_cases hphase : both.loop.phase = .waiting
  · rw [step_poll_of_waiting hphase]
    exact h.of_session rfl
  · rw [step_poll_of_phase_ne_waiting hphase]
    exact h

end Loop

/-! ## Runs -/

/-- Every turn keeps the loop, the reader and the view in step. -/
theorem inStep_step {both : Handshake} (h : both.InStep) (turn : Turn) :
    (both.step turn).1.InStep := by
  cases turn with
  | take => exact inStep_take h
  | give answer => exact inStep_give h answer
  | breakDown => exact inStep_endReader h
  | dismiss => exact inStep_dismiss h
  | hear => exact inStep_hear h
  | poll => exact inStep_poll h
  | arrive arrival => exact inStep_arrive h arrival

theorem play_concat (both : Handshake) (turns : List Turn) (turn : Turn) :
    both.play (turns ++ [turn]) = ((both.play turns).step turn).1 := by
  rw [play, List.foldl_append]
  rfl

/-- Both sides after turns from the start. -/
def moment (config : ReplConfig) (present : Bool) (turns : List Turn) : Handshake :=
  (start config present).1.play turns

theorem moment_concat (config : ReplConfig) (present : Bool) (turns : List Turn) (turn : Turn) :
    moment config present (turns ++ [turn]) = ((moment config present turns).step turn).1 :=
  play_concat _ _ _

theorem inStep_moment (config : ReplConfig) (present : Bool) (turns : List Turn) :
    (moment config present turns).InStep := by
  induction turns using List.reverseRecOn with
  | nil =>
      have hshown : (if present then Reader.idle else Reader.ended).shown = [] := by
        cases present <;> rfl
      exact inStep_proceed_ask
        { loop := ⟨(Loop.start config).1.repl, .left, []⟩
          reader := if present then .idle else .ended }
        hshown rfl rfl rfl (Repl.new config).render.1
  | append_singleton turns turn ih =>
      rw [moment_concat]
      exact inStep_step ih turn

/-! ## What a turn does to the loop -/

/-- What a turn does to the loop, and what is put out: nothing; the requests in flight are polled,
or a reply is received, while the loop waits; a line is handled without a prompt on record, and a
message goes out because the session is to go on; or the loop is over and sends nothing. -/
inductive LoopTurn (both : Handshake) : Turn → Loop → List Output → Prop where
  | rests (turn : Turn) : LoopTurn both turn both.loop []
  | polls (hphase : both.loop.phase = .waiting) :
    LoopTurn both .poll { both.loop with repl := both.loop.repl.poll } []
  | receives (arrival : Arrival) (hphase : both.loop.phase = .waiting) :
    LoopTurn both (.arrive arrival)
      { both.loop with repl := (both.loop.repl.receive arrival).2.1 }
      (both.loop.repl.receive arrival).2.2
  | asks (line : String) (rest : List Answer) (hanswers : both.answers = .ok line :: rest)
    (hgo : ((both.loop.repl.setPrompt none).handleLine line).1 = true) :
    LoopTurn both .hear
      (Loop.ask both.loop.sent ((both.loop.repl.setPrompt none).handleLine line).2.1)
      ((both.loop.repl.setPrompt none).handleLine line).2.2
  | leaves (next : Loop) (output : List Output) (hphase : next.phase ≠ .waiting)
    (hsent : next.sent = both.loop.sent) (hunder : Output.Under none output) :
    LoopTurn both .hear next output

section Turns

variable {both : Handshake}

/-- A loop that waits after a turn waited before it under the same record, or has just asked. -/
theorem LoopTurn.of_waiting {turn : Turn} {next : Loop} {output : List Output}
    (h : both.LoopTurn turn next output) (hnext : next.phase = .waiting) :
    (both.loop.phase = .waiting ∧ next.sent = both.loop.sent ∧
        next.repl.console.view.prompt = both.loop.repl.console.view.prompt) ∨
      ∃ repl, next = Loop.ask both.loop.sent repl := by
  cases h with
  | rests turn => exact .inl ⟨hnext, rfl, rfl⟩
  | polls hphase => exact .inl ⟨hphase, rfl, rfl⟩
  | receives arrival hphase =>
      exact .inl ⟨hphase, rfl, (keepsPrompt_receive both.loop.repl arrival).record⟩
  | asks line rest hanswers hgo => exact .inr ⟨_, rfl⟩
  | leaves next output hphase hsent hunder => exact absurd hnext hphase

/-- What the loop puts out when it takes an answer is put out without a prompt. -/
theorem LoopTurn.under_of_hear {next : Loop} {output : List Output}
    (h : both.LoopTurn .hear next output) : Output.Under none output := by
  cases h with
  | rests turn => exact Output.under_nil
  | asks line rest hanswers hgo =>
      exact (keepsPrompt_handleLine (both.loop.repl.setPrompt none) line).under
  | leaves next output hphase hsent hunder => exact hunder

theorem loop_take (both : Handshake) : both.take.loop = both.loop := by
  rw [take]
  split <;> rfl

theorem loop_give (both : Handshake) (answer : Answer) : (both.give answer).loop = both.loop := by
  obtain ⟨⟨repl, phase, sent⟩, reader, prompts, answers, heard⟩ := both
  cases reader <;> cases phase <;> cases answer <;> rfl

theorem loop_dismiss (both : Handshake) : both.dismiss.loop = both.loop := by
  rw [dismiss]
  split <;> rfl

theorem loopTurn_hear (both : Handshake) : both.LoopTurn .hear both.hear.1.loop both.hear.2 := by
  by_cases hphase : both.loop.phase = .waiting
  · cases hanswers : both.answers with
    | nil =>
        by_cases hreader : both.reader = .ended
        · rw [hear_of_closed hphase hanswers hreader]
          exact .leaves _ _ Phase.noConfusion rfl Output.under_nil
        · rw [hear_of_present hanswers hreader]
          exact .rests _
    | cons answer rest =>
        rw [hear_of_answer hphase hanswers]
        cases answer with
        | error failure =>
            obtain ⟨hover, hsent, hunder⟩ := handle_failed both.loop failure
            rw [eventOf, proceed_of_phase_ne_waiting hover]
            exact .leaves _ _ hover hsent hunder
        | ok line =>
            have hunder := (keepsPrompt_handleLine (both.loop.repl.setPrompt none) line).under
            rw [eventOf]
            cases hgo : ((both.loop.repl.setPrompt none).handleLine line).1 with
            | true =>
                rw [handle_answered_of_goOn hgo]
                by_cases hreader : both.reader = .ended
                -- The message finds no reader, so the loop is over and the record stays behind.
                · rw [proceed_ask_of_ended]
                  · exact .leaves _ _ Phase.noConfusion rfl hunder
                  · exact hreader
                · rw [proceed_ask]
                  · exact .asks line rest hanswers hgo
                  · exact hreader
            | false =>
                rw [handle_answered_of_quit hgo, proceed_of_phase_ne_waiting Phase.noConfusion]
                exact .leaves _ _ Phase.noConfusion rfl hunder
  · rw [hear_of_phase_ne_waiting hphase]
    exact .rests _

/-- Every turn does one of these things to the loop. -/
theorem loopTurn_step (both : Handshake) (turn : Turn) :
    both.LoopTurn turn (both.step turn).1.loop (both.step turn).2 := by
  cases turn with
  | take =>
      rw [step, loop_take]
      exact .rests _
  | give answer =>
      rw [step, loop_give]
      exact .rests _
  | breakDown => exact .rests _
  | dismiss =>
      rw [step, loop_dismiss]
      exact .rests _
  | hear => exact loopTurn_hear both
  | poll =>
      by_cases hphase : both.loop.phase = .waiting
      · rw [step_poll_of_waiting hphase]
        exact .polls hphase
      · rw [step_poll_of_phase_ne_waiting hphase]
        exact .rests _
  | arrive arrival =>
      by_cases hphase : both.loop.phase = .waiting
      · rw [step_arrive_of_waiting hphase]
        exact .receives arrival hphase
      · rw [step_arrive_of_phase_ne_waiting hphase]
        exact .rests _

/-- A loop that would have waited is over instead, because its last message found no reader. -/
def Unheard (ran loop : Loop) : Prop :=
  ran.phase = .waiting ∧ ∃ message, ran.sent = loop.sent ++ [message] ∧
    loop = ⟨ran.repl, .left, loop.sent⟩

/-- Behind an answer, the loop asks again or is over. -/
theorem handle_answer_or_over (loop : Loop) (answer : Answer) :
    (∃ repl, (loop.handle (eventOf answer)).1 = Loop.ask loop.sent repl) ∨
      (loop.handle (eventOf answer)).1.phase ≠ .waiting := by
  cases answer with
  | error failure => exact .inr (handle_failed loop failure).1
  | ok line =>
      rw [eventOf]
      cases hgo : ((loop.repl.setPrompt none).handleLine line).1 with
      | true =>
          rw [handle_answered_of_goOn hgo]
          exact .inl ⟨_, rfl⟩
      | false =>
          rw [handle_answered_of_quit hgo]
          exact .inr Phase.noConfusion

/-- A turn leaves the loop alone, or is an event of the loop whose message, if it sends one, may
find no reader. -/
theorem exists_event_step (both : Handshake) (turn : Turn) :
    (both.step turn).1.loop = both.loop ∨
      ∃ event, (both.step turn).1.loop = (both.loop.step event).1 ∨
        Unheard (both.loop.step event).1 (both.step turn).1.loop := by
  -- The reader's own turns leave the loop alone; of the others, only hearing may find no reader.
  cases turn with
  | take => exact .inl (loop_take both)
  | give answer => exact .inl (loop_give both answer)
  | breakDown => exact .inl rfl
  | dismiss => exact .inl (loop_dismiss both)
  | poll => exact .inr ⟨.polled, .inl rfl⟩
  | arrive arrival => exact .inr ⟨.received arrival, .inl rfl⟩
  | hear =>
      by_cases hphase : both.loop.phase = .waiting
      · cases hanswers : both.answers with
        | nil =>
            by_cases hreader : both.reader = .ended
            · right
              refine ⟨.closed, .inl ?_⟩
              rw [step, hear_of_closed hphase hanswers hreader, Loop.step_of_waiting hphase]
            · left
              rw [step, hear_of_present hanswers hreader]
        | cons answer rest =>
            right
            refine ⟨eventOf answer, ?_⟩
            rw [step, hear_of_answer hphase hanswers, Loop.step_of_waiting hphase]
            rcases handle_answer_or_over both.loop answer with ⟨repl, hask⟩ | hover
            · by_cases hreader : both.reader = .ended
              · right
                rw [hask, proceed_ask_of_ended]
                · exact ⟨rfl, repl.promptMessage, rfl, rfl⟩
                · exact hreader
              · left
                rw [hask, proceed_ask]
                exact hreader
            · left
              rw [proceed_of_phase_ne_waiting hover]
      · left
        rw [step, hear_of_phase_ne_waiting hphase]

theorem reachable_step (h : both.loop.repl.Reachable) (turn : Turn) :
    (both.step turn).1.loop.repl.Reachable := by
  have hevent (event : Event) : (both.loop.step event).1.repl.Reachable := by
    obtain ⟨moves, hmoves⟩ := Loop.exists_play_step both.loop event
    exact hmoves ▸ h.play moves
  rcases exists_event_step both turn with hsame | ⟨event, hstep | ⟨-, message, -, hloop⟩⟩
  · rw [hsame]
    exact h
  · rw [hstep]
    exact hevent event
  · rw [hloop]
    exact hevent event

theorem reachable_moment (config : ReplConfig) (present : Bool) (turns : List Turn) :
    (moment config present turns).loop.repl.Reachable := by
  induction turns using List.reverseRecOn with
  | nil =>
      have hstart := Loop.reachable_start config
      cases present with
      | true => exact hstart
      | false => exact hstart
  | append_singleton turns turn ih =>
      rw [moment_concat]
      exact reachable_step ih turn

theorem loop_run_concat (loop : Loop) (events : List Event) (event : Event) :
    (loop.run (events ++ [event])).1 = ((loop.run events).1.step event).1 := by
  induction events generalizing loop with
  | nil => rfl
  | cons first rest ih =>
      rw [List.cons_append, Loop.run_cons, Loop.run_cons, ih]

/-- With a reader at the start, the loop goes through a run of its own events, and a message that
finds no reader is the last one of the run. -/
theorem exists_run_moment (config : ReplConfig) (turns : List Turn) :
    ∃ events, (moment config true turns).loop = ((Loop.start config).1.run events).1 ∨
      Unheard ((Loop.start config).1.run events).1 (moment config true turns).loop := by
  -- From the end of the run: the last turn adds an event or none.
  induction turns using List.reverseRecOn with
  | nil => exact ⟨[], .inl rfl⟩
  | append_singleton turns turn ih =>
      obtain ⟨events, hsame | hunheard⟩ := ih
      · have hturn := exists_event_step (moment config true turns) turn
        rw [← moment_concat, hsame] at hturn
        rcases hturn with hsame | ⟨event, hevent⟩
        · exact ⟨events, .inl hsame⟩
        · refine ⟨events ++ [event], ?_⟩
          rw [loop_run_concat]
          exact hevent
      · -- The loop is over, so it stays as it is.
        have hover : (moment config true turns).loop.phase ≠ .waiting := by
          obtain ⟨-, message, -, hloop⟩ := hunheard
          rw [hloop]
          exact Phase.noConfusion
        refine ⟨events, .inr ?_⟩
        rw [moment_concat]
        rcases exists_event_step (moment config true turns) turn with hkept | ⟨event, hevent⟩
        · rw [hkept]
          exact hunheard
        · rw [(Loop.step_of_phase_ne_waiting hover event).1] at hevent
          rcases hevent with hkept | ⟨hwaiting, -⟩
          · rw [hkept]
            exact hunheard
          · exact absurd hwaiting hover

end Turns

/-! ## The message on record -/

/-- A message was sent at this moment of a run: the first one at the start, any other one in the
last turn. -/
inductive SendsAt (config : ReplConfig) (present : Bool) : List Turn → Prop where
  | start : SendsAt config present []
  | turn (before : List Turn) (turn : Turn)
    (h : (moment config present before).loop.sent ≠
      (moment config present (before ++ [turn])).loop.sent) :
    SendsAt config present (before ++ [turn])

/-- The message on record is that of the session at the moment when it was sent, whatever has come
of the session since. -/
theorem record_eq_sent {config : ReplConfig} {present : Bool} {turns : List Turn}
    (h : (moment config present turns).loop.phase = .waiting) :
    ∃ before after, turns = before ++ after ∧ SendsAt config present before ∧
      (moment config present before).loop.sent = (moment config present turns).loop.sent ∧
      (moment config present turns).loop.repl.console.view.prompt =
        some (moment config present before).loop.repl.promptMessage := by
  -- From the end of the run: the last turn has sent the message, or it was on record before.
  induction turns using List.reverseRecOn with
  | nil =>
      refine ⟨[], [], rfl, .start, rfl, ?_⟩
      cases present with
      | true => rfl
      | false => rfl
  | append_singleton turns turn ih =>
      have hturn := loopTurn_step (moment config present turns) turn
      rw [← moment_concat] at hturn
      rcases hturn.of_waiting h with ⟨hphase, hsent, hrecord⟩ | ⟨repl, hask⟩
      · obtain ⟨before, after, rfl, hsends, hsame, hmessage⟩ := ih hphase
        refine ⟨before, after ++ [turn], (List.append_assoc _ _ _), hsends, ?_, ?_⟩
        · rw [hsent, hsame]
        · rw [hrecord, hmessage]
      · -- The message of this very turn is one more than those before.
        refine ⟨turns ++ [turn], [], (List.append_nil _).symm, .turn turns turn ?_, rfl, ?_⟩
        · rw [hask]
          intro heq
          have hlength := congrArg List.length heq
          rw [Loop.ask, List.length_append, List.length_singleton] at hlength
          omega
        · rw [hask]
          rfl

/-! ## Agreement -/

/-- The characters of an emission under a prompt end with a copy of the prompt: the mark, a blank,
the message and a blank. -/
theorem exists_render_eq_append_promptLine {emission : Emission} {message : String}
    (h : emission.prompt = some message) (color : Bool) :
    ∃ front, emission.render color =
      front ++ Line.render color
        [Style.command.paint "❯", .plain " ", .plain message, .plain " "] := by
  rw [Emission.render, h]
  exact ⟨_, rfl⟩

/-- The loop, the reader and the view agree on the prompt. -/
structure Agrees (both : Handshake) : Prop where
  /-- At most one prompt is on its way to the reader, shown, or on its way back. -/
  one : both.prompts.length + both.reader.shown.length + both.answers.length ≤ 1
  /-- A loop that waits has sent one message that it has no answer to, and this is on record. -/
  waits : both.loop.phase = .waiting → ∃ message, both.Waits message
  /-- A reply that meanwhile arrives for a request is shown above a copy of this message. -/
  shows : ∀ message, both.Waits message → ∀ arrival : Arrival,
    both.loop.repl.session.pending? arrival.direction ≠ none →
      ∃ emission, (both.step (.arrive arrival)).2 = [.screen emission] ∧ emission.lines ≠ [] ∧
        emission.prompt = some message ∧ (∀ shown ∈ both.reader.shown, shown = message) ∧
        ∀ color, ∃ front, emission.render color =
          front ++ Line.render color
            [Style.command.paint "❯", .plain " ", .plain message, .plain " "]
  /-- An answer is handled without a prompt. -/
  hears : Output.Under none (both.step .hear).2
  /-- A message is sent only when the loop has handled a line without a prompt on record and the
  session is to go on. -/
  asks : ∀ turn, (both.step turn).1.loop.sent ≠ both.loop.sent →
    turn = .hear ∧ ∃ line rest, both.answers = .ok line :: rest ∧
      ((both.loop.repl.setPrompt none).handleLine line).1 = true ∧
      (both.step turn).1.loop =
        Loop.ask both.loop.sent ((both.loop.repl.setPrompt none).handleLine line).2.1
  /-- Once the loop is over without a failure, nothing is under way, and leaving shows everything
  without a prompt. -/
  leaves : both.loop.phase = .left → both.Rests ∧ ∀ arrivals,
    (both.loop.repl.leave arrivals).1.console.view.prompt = none ∧
      Output.Under none (both.loop.repl.leave arrivals).2

section Agreement

variable {both : Handshake}

theorem replyLines_ne_nil (s : Session) (request : Request) (outcome : Outcome) (now : Instant) :
    View.replyLines s request outcome now ≠ [] :=
  List.cons_ne_nil _ _

/-- A reply to a request in flight is shown under the message that the loop waits for. -/
theorem shows_of_waits (hr : both.loop.repl.Reachable) {message : String}
    (h : both.Waits message) {arrival : Arrival}
    (hpending : both.loop.repl.session.pending? arrival.direction ≠ none) :
    ∃ emission, (both.step (.arrive arrival)).2 = [.screen emission] ∧ emission.lines ≠ [] ∧
      emission.prompt = some message := by
  obtain ⟨request, hrequest⟩ := Option.ne_none_iff_exists'.1 hpending
  have hbusy : both.loop.repl.session.inFlight ≠ [] := by
    intro hidle
    rw [Session.pending?_of_idle hidle] at hrequest
    cases hrequest
  rw [step_arrive_of_waiting h.phase]
  refine ⟨_, output_receive (hr.inSync_of_pending hbusy) hrequest, ?_, h.record⟩
  exact replyLines_ne_nil _ _ _ _

theorem InStep.agrees (h : both.InStep) (hr : both.loop.repl.Reachable) : both.Agrees := by
  constructor
  case one => exact h.one
  case waits =>
    intro hphase
    rcases h with hwaits | hrests
    · exact hwaits
    · exact absurd hphase hrests.phase
  case shows =>
    intro message hwaits arrival hpending
    obtain ⟨emission, hout, hlines, hprompt⟩ := shows_of_waits hr hwaits hpending
    exact ⟨emission, hout, hlines, hprompt, hwaits.whereabouts.eq_of_shown,
      exists_render_eq_append_promptLine hprompt⟩
  case hears => exact (loopTurn_step both .hear).under_of_hear
  -- A turn that sends a message is one that hears an answer, by what a turn may do to the loop.
  case asks =>
    intro turn hsent
    have hturn := loopTurn_step both turn
    generalize (both.step turn).1.loop = next at hturn hsent ⊢
    generalize (both.step turn).2 = output at hturn
    cases hturn with
    | rests turn => exact absurd rfl hsent
    | polls hphase => exact absurd rfl hsent
    | receives arrival hphase => exact absurd rfl hsent
    | asks line rest hanswers hgo => exact ⟨rfl, line, rest, hanswers, hgo, rfl⟩
    | leaves next output hphase hsame hunder => exact absurd hsame hsent
  case leaves =>
    intro hphase
    refine ⟨?_, fun arrivals => under_leave both.loop.repl arrivals⟩
    rcases h with ⟨message, hwaits⟩ | hrests
    · cases hwaits.phase.symm.trans hphase
    · exact hrests

end Agreement

/-- At every moment of every run, the loop, the reader and the view agree on the prompt, and a loop
that waits has the message on record that the session had when it was sent. -/
theorem agrees_moment (config : ReplConfig) (present : Bool) (turns : List Turn) :
    (moment config present turns).Agrees ∧
      ((moment config present turns).loop.phase = .waiting →
        ∃ before after, turns = before ++ after ∧ SendsAt config present before ∧
          (moment config present before).loop.sent = (moment config present turns).loop.sent ∧
          (moment config present turns).loop.repl.console.view.prompt =
            some (moment config present before).loop.repl.promptMessage) :=
  ⟨(inStep_moment config present turns).agrees (reachable_moment config present turns),
    record_eq_sent⟩

/-- A session that works in both directions, with a prompt on the screen that has seen a reply. -/
def staleTurns : List Turn :=
  [.take, .give (.ok "SELECT 1"), .hear, .take, .give (.ok "/mongo"), .hear, .take,
    .give (.ok "db.a.find()"), .hear, .take, .arrive ⟨.mongoToSql, .success "SELECT 2", 5⟩]

/-- The same session after one more command, where the reader broke down behind its answer. -/
def brokenTurns : List Turn :=
  staleTurns ++ [.give (.ok "/history"), .breakDown, .hear]

/-- The settings of these sessions. -/
def staleConfig : ReplConfig := ⟨"http://localhost:5000", 30000, .sqlToMongo⟩

/-- The selected direction is free again, but the next reply is shown above the prompt that says it
is translating, which is the one that was sent. The loop that finds no reader keeps its prompt on
record to the end, and says its farewell without one. -/
theorem agrees_staleTurns :
    (moment staleConfig true staleTurns).loop.repl.promptMessage = "[mongo]" ∧
    (∃ before after, staleTurns = before ++ after ∧ SendsAt staleConfig true before ∧
      (moment staleConfig true before).loop.repl.promptMessage = "[mongo] (translating)") ∧
    (∃ emission, ((moment staleConfig true staleTurns).step
        (.arrive ⟨.sqlToMongo, .success "db.b.find()", 7⟩)).2 = [.screen emission] ∧
      emission.prompt = some "[mongo] (translating)") ∧
    (moment staleConfig true brokenTurns).loop.repl.console.view.prompt = some "[mongo]" ∧
    Output.Under none ((moment staleConfig true brokenTurns).loop.repl.leave []).2 := by
  obtain ⟨hagrees, hrecord⟩ := agrees_moment staleConfig true staleTurns
  obtain ⟨hbroken, -⟩ := agrees_moment staleConfig true brokenTurns
  have hphase : (moment staleConfig true staleTurns).loop.phase = .waiting := by decide
  have hstale : (moment staleConfig true staleTurns).loop.repl.console.view.prompt =
      some "[mongo] (translating)" := by decide
  refine ⟨by decide, ?_, ?_, by decide, ?_⟩
  · obtain ⟨before, after, hturns, hsends, -, hmessage⟩ := hrecord hphase
    exact ⟨before, after, hturns, hsends, Option.some_inj.1 (hmessage.symm.trans hstale)⟩
  · obtain ⟨message, hwaits⟩ := hagrees.waits hphase
    have hpending : (moment staleConfig true staleTurns).loop.repl.session.pending? .sqlToMongo ≠
        none := by decide
    obtain ⟨emission, hout, -, hprompt, -, -⟩ := hagrees.shows message hwaits
      ⟨.sqlToMongo, .success "db.b.find()", 7⟩ hpending
    exact ⟨emission, hout, hprompt.trans (hwaits.record.symm.trans hstale)⟩
  · obtain ⟨-, hleave⟩ := hbroken.leaves (by decide)
    exact (hleave []).2

end QueryBridge.Terminal.Handshake
