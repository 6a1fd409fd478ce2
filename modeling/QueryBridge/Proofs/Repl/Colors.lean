import QueryBridge.Environment
import QueryBridge.Proofs.Repl.Escapes

/-!
# Colours change nothing but colours

A session never looks at colours: they come in where its output is written out. What is seen of a
course of acts is a list of records (`Repl.transcript`): what each act gives back, the session after
it, the calls that the view gets (`Repl.calls`, from which the view follows by `Repl.view_act`) and
the text put out. Each act keeps a session free of escape characters (`Repl.Unescaped.act`), and so
does all that happens to the loop (`Repl.Loop.unescaped_run`). So deleting the colours from what is
seen with colours gives what is seen without them.
-/

set_option autoImplicit false

namespace QueryBridge

theorem View.respondAll_append_fst (view : View) (first later : List ViewCall) :
    (view.respondAll (first ++ later)).1 = ((view.respondAll first).1.respondAll later).1 := by
  induction first generalizing view with
  | nil => rfl
  | cons call first ih => exact ih (view.respond call).1

namespace Repl

/-! ## Acts -/

/-- What is done to an interactive session. -/
inductive Act where
  | header
  | render
  /-- The prompt of the session is shown. -/
  | ask
  /-- The prompt has returned. -/
  | hide
  | line (text : String)
  | poll
  | reply (arrival : Arrival)
  | leave (arrivals : List Arrival)
  deriving DecidableEq, Repr

/-- No escape character is in what an act brings to the session: its input and the outcomes. -/
def Act.Unescaped : Act → Prop
  | .line text => EscapeFree text
  | .reply arrival => EscapeFree arrival.outcome.text
  | .leave arrivals => ∀ arrival ∈ arrivals, EscapeFree arrival.outcome.text
  | .header | .render | .ask | .hide | .poll => True

instance (a : Act) : Decidable a.Unescaped :=
  match a with
  | .line text => inferInstanceAs (Decidable (EscapeFree text))
  | .reply arrival => inferInstanceAs (Decidable (EscapeFree arrival.outcome.text))
  | .leave arrivals =>
    inferInstanceAs (Decidable (∀ arrival ∈ arrivals, EscapeFree arrival.outcome.text))
  | .header | .render | .ask | .hide | .poll => .isTrue trivial

/-- What an act gives back. -/
inductive Answer where
  | none
  | goesOn (flag : Bool)
  | recorded (entry : Option HistoryEntry)
  | sent (message : String)
  | givenUp (number : Nat)
  deriving DecidableEq, Repr

/-- The session after an act and what it puts out. -/
def act (repl : Repl) : Act → Repl × List Output
  | .header => (repl, [.out (Screen.header repl.config)])
  | .render => repl.render
  | .ask => (repl.showPrompt, [])
  | .hide => (repl.setPrompt none, [])
  | .line text => (repl.handleLine text).2
  | .poll => (repl.poll, [])
  | .reply arrival => (repl.receive arrival).2
  | .leave arrivals => repl.leave arrivals

/-- What an act gives back. -/
def answer (repl : Repl) : Act → Answer
  | .header | .render | .hide | .poll => .none
  | .ask => .sent repl.promptMessage
  | .line text => .goesOn (repl.handleLine text).1
  | .reply arrival => .recorded (repl.receive arrival).1
  | .leave arrivals => .givenUp ((repl.setPrompt none).finishPending arrivals).1

/-- The calls that the view gets when a command is carried out. -/
def commandCalls (repl : Repl) (command : Command) : List ViewCall :=
  (repl.gesture? command).elim [] fun intent => (intent.apply repl.session).2

/-- The calls that the view gets when a line is handled. -/
def inputCalls (repl : Repl) : Input → List ViewCall
  | .empty => []
  | .text query =>
    let edit := Intent.editInput repl.state.direction query
    (edit.apply repl.session).2 ++ (repl.apply edit).1.commandCalls .submit
  | .command command => repl.commandCalls command

/-- The calls that the view gets when a reply is received. -/
def replyCalls (repl : Repl) (arrival : Arrival) : List ViewCall :=
  (repl.receive arrival).1.elim [] fun _ => [.ofSession (repl.receive arrival).2.1.session]

/-- The calls that the view gets while replies are waited for. -/
def awaitCalls (repl : Repl) : List Arrival → List ViewCall
  | [] => []
  | arrival :: rest =>
    if repl.session.hasPending then
      repl.replyCalls arrival ++ (repl.receive arrival).2.1.awaitCalls rest
    else []

/-- The calls that the view gets in an act. -/
def calls (repl : Repl) : Act → List ViewCall
  | .header | .ask | .hide | .poll => []
  | .render => [.ofSession repl.session]
  | .line text => repl.inputCalls (Input.parse text)
  | .reply arrival => repl.replyCalls arrival
  | .leave arrivals => (repl.setPrompt none).awaitCalls arrivals

/-- The prompt on record during an act. -/
def promptDuring (repl : Repl) : Act → Option String
  | .ask => some repl.promptMessage
  | .hide | .leave _ => none
  | .header | .render | .line _ | .poll | .reply _ => repl.console.view.prompt

section Calls

variable {repl : Repl}

theorem view_handleCommand (repl : Repl) (command : Command) :
    (repl.handleCommand command).2.1.console.view =
      (repl.console.view.respondAll (repl.commandCalls command)).1 := by
  rw [handleCommand_eq, commandCalls]
  cases repl.gesture? command with
  | none => rfl
  | some intent => rfl

/-- The view behind a line has answered the calls that the line makes, and no others. -/
theorem view_handleLine (repl : Repl) (line : String) :
    (repl.handleLine line).2.1.console.view =
      (repl.console.view.respondAll (repl.inputCalls (Input.parse line))).1 := by
  rw [handleLine]
  cases Input.parse line with
  | empty => rfl
  | text query =>
      rw [inputCalls, View.respondAll_append_fst]
      exact view_handleCommand _ .submit
  | command command => exact view_handleCommand repl command

theorem view_receive (repl : Repl) (arrival : Arrival) :
    (repl.receive arrival).2.1.console.view =
      (repl.console.view.respondAll (repl.replyCalls arrival)).1 := by
  cases hp : repl.session.pending? arrival.direction with
  | none =>
      rw [replyCalls, receive_of_none hp]
      rfl
  | some request =>
      rw [replyCalls, receive_of_pending hp]
      rfl

theorem view_await (repl : Repl) (arrivals : List Arrival) :
    (repl.await arrivals).1.console.view =
      (repl.console.view.respondAll (repl.awaitCalls arrivals)).1 := by
  induction arrivals generalizing repl with
  | nil => rfl
  | cons arrival rest ih =>
      by_cases hidle : repl.session.inFlight = []
      · have hpending : repl.session.hasPending = false := (hasPending_eq_false_iff _).2 hidle
        rw [await_of_idle hidle, awaitCalls, hpending]
        rfl
      · have hpending : repl.session.hasPending = true := by
          rw [← Bool.not_eq_false, hasPending_eq_false_iff]
          exact hidle
        rw [await_cons hidle, awaitCalls, if_pos hpending, View.respondAll_append_fst,
          ← view_receive]
        exact ih _

/-- The view after an act is what its calls make of the view before, under the prompt of the act. -/
theorem view_act (repl : Repl) (a : Act) :
    (repl.act a).1.console.view =
      ((repl.console.view.setPrompt (repl.promptDuring a)).respondAll (repl.calls a)).1 := by
  cases a with
  | header => rfl
  | render => rfl
  | ask => rfl
  | hide => rfl
  | line text => exact view_handleLine repl text
  | poll => rfl
  | reply arrival => exact view_receive repl arrival
  -- The prompt goes off the record before replies are waited for.
  | leave arrivals => exact view_await (repl.setPrompt none) arrivals

end Calls

/-! ## Records of a course -/

/-- What is seen of an act: what it gives back, the session after it, the calls that the view gets
and the text that is put out. -/
structure Record where
  answer : Answer
  after : Repl
  calls : List ViewCall
  shown : Output.Streams
  deriving DecidableEq, Repr

/-- A record without the sequences that set a graphic rendition. -/
def Record.erased (record : Record) : Record :=
  { record with shown := record.shown.erased }

/-- What is seen of an act in an output mode. -/
def record (mode : OutputMode) (repl : Repl) (a : Act) : Record :=
  ⟨repl.answer a, (repl.act a).1, repl.calls a, Output.streams mode.color (repl.act a).2⟩

/-- What is seen of acts in an output mode, the first one first. -/
def transcript (mode : OutputMode) (repl : Repl) : List Act → List Record
  | [] => []
  | a :: rest => repl.record mode a :: (repl.act a).1.transcript mode rest

/-- All that acts put out, the first one first. -/
def outputs (repl : Repl) : List Act → List Output
  | [] => []
  | a :: rest => (repl.act a).2 ++ (repl.act a).1.outputs rest

/-- An act keeps a session without escape characters, and puts none out. -/
theorem Unescaped.act {repl : Repl} (h : repl.Unescaped) {a : Act} (ha : a.Unescaped) :
    UnescapedAfter (repl.act a) := by
  cases a with
  | header => exact ⟨h, List.forall_mem_singleton.2 (Screen.unescaped_header h.endpoint)⟩
  | render => exact h.render
  | ask => exact ⟨h.showPrompt, List.forall_mem_nil _⟩
  | hide => exact ⟨h.hidePrompt, List.forall_mem_nil _⟩
  | line text => exact h.handleLine ha
  | poll => exact ⟨h.poll, List.forall_mem_nil _⟩
  | reply arrival => exact h.receive ha
  | leave arrivals => exact h.leave ha

/-- Without escapes in what is typed and replied, nothing that a course puts out has one. -/
theorem Unescaped.outputs {repl : Repl} (h : repl.Unescaped) {acts : List Act}
    (hacts : ∀ a ∈ acts, a.Unescaped) : ∀ piece ∈ repl.outputs acts, piece.Unescaped := by
  induction acts generalizing repl with
  | nil => exact List.forall_mem_nil _
  | cons a rest ih =>
      obtain ⟨ha, hrest⟩ := List.forall_mem_cons.1 hacts
      have hfirst := h.act ha
      exact List.forall_mem_append.2 ⟨hfirst.output, ih hfirst.repl hrest⟩

/-- One act leaves the same record with color as without it, once the color is erased. -/
theorem Unescaped.erased_record {repl : Repl} (h : repl.Unescaped) {a : Act} (ha : a.Unescaped)
    (quiet : Bool) : (repl.record ⟨quiet, false⟩ a).erased = repl.record ⟨quiet, true⟩ a := by
  have hshown := Output.erased_streams (h.act ha).output
  rw [record, Record.erased]
  exact congrArg (Record.mk _ _ _) hshown

/-- So does a course of acts, since no act reads what was written. -/
theorem Unescaped.erased_transcript {repl : Repl} (h : repl.Unescaped) {acts : List Act}
    (hacts : ∀ a ∈ acts, a.Unescaped) (quiet : Bool) :
    (repl.transcript ⟨quiet, false⟩ acts).map Record.erased =
      repl.transcript ⟨quiet, true⟩ acts := by
  induction acts generalizing repl with
  | nil => rfl
  | cons a rest ih =>
      obtain ⟨ha, hrest⟩ := List.forall_mem_cons.1 hacts
      rw [transcript, List.map_cons, h.erased_record ha, ih (h.act ha).repl hrest, transcript]

/-- Colours change nothing but colours. In any course of acts whose inputs and outcomes, like the
endpoint, have no escape character, what acts give back, the session after each act and the calls of
its view are the same with colours and without. Deleting all sequences that set a graphic rendition
from the text of each act, or from all the text together, gives the text without colours. An
emission under a prompt begins with the sequence that clears the prompt in both cases. -/
theorem color_changes_only_color {config : ReplConfig} (hendpoint : EscapeFree config.endpoint)
    {acts : List Act} (hacts : ∀ a ∈ acts, a.Unescaped) (quiet : Bool) :
    ((new config).transcript ⟨quiet, false⟩ acts).map Record.erased =
        (new config).transcript ⟨quiet, true⟩ acts ∧
      (Output.streams true ((new config).outputs acts)).erased =
        Output.streams false ((new config).outputs acts) ∧
      ∀ emission message, Output.screen emission ∈ (new config).outputs acts →
        emission.prompt = some message →
        ∃ colored plain, emission.render true = Emission.clearPrompt ++ colored ∧
          emission.render false = Emission.clearPrompt ++ plain ∧ Style.erased colored = plain := by
  have hnew := unescaped_new hendpoint
  have houtputs := hnew.outputs hacts
  refine ⟨hnew.erased_transcript hacts quiet, Output.erased_streams houtputs, ?_⟩
  intro emission message hin hprompt
  obtain ⟨colored, plain, hcolored, hplain, hfades⟩ :=
    Emission.Unescaped.exists_fades (houtputs _ hin) hprompt
  exact ⟨colored, plain, hcolored, hplain, hfades.erased_eq⟩

/-- A query that is typed at the first prompt, and its reply. -/
def queryCourse : List Act :=
  [.ask, .line "SELECT 1", .reply ⟨.sqlToMongo, .success "db.one.find()", 0⟩]

/-- The settings for a service on the same machine. -/
def localConfig : ReplConfig :=
  ⟨"http://localhost:5000", 30000, .sqlToMongo⟩

/-- A course whose text has colours under its prompt, and loses only them. -/
theorem queryCourse_loses_only_color :
    (Output.streams true ((new localConfig).outputs queryCourse)).screen =
        ("\r\x1b[J\x1b[2mTranslating SQL → MongoDB...\x1b[0m\r\n\x1b[32m❯\x1b[39m [sql] " ++
          "\r\x1b[J\x1b[1mResult:\x1b[0m\r\n  \x1b[36mdb.one.find()\x1b[39m\r\n\r\n" ++
          "\x1b[32m❯\x1b[39m [sql] ").toList ∧
      ((new localConfig).transcript ⟨true, false⟩ queryCourse).map Record.erased =
        (new localConfig).transcript ⟨true, true⟩ queryCourse ∧
      (Output.streams true ((new localConfig).outputs queryCourse)).erased =
        Output.streams false ((new localConfig).outputs queryCourse) := by
  have hacts : ∀ a ∈ queryCourse, a.Unescaped := by decide
  have hendpoint : EscapeFree localConfig.endpoint := by decide
  obtain ⟨hrecords, htext, -⟩ := color_changes_only_color hendpoint hacts true
  exact ⟨by decide +kernel, hrecords, htext⟩

/-! ## The loop -/

namespace Loop

variable {loop : Loop}

/-- The address is the only text of the user that the start of a session shows. -/
theorem unescaped_start {config : ReplConfig} (h : EscapeFree config.endpoint) :
    (start config).1.repl.Unescaped ∧ ∀ piece ∈ (start config).2, piece.Unescaped := by
  have hshown := (unescaped_new h).render
  have hheader : (Output.out (Screen.header config)).Unescaped := Screen.unescaped_header h
  exact ⟨hshown.repl.showPrompt, List.forall_mem_cons.2 ⟨hheader, hshown.output⟩⟩

/-- An event whose line or outcome has no escape character keeps the session of the loop without
them, and none is put out. -/
theorem unescaped_step (h : loop.repl.Unescaped) {event : Event}
    (hline : ∀ line, event = .answered line → EscapeFree line)
    (hreply : ∀ arrival, event = .received arrival → EscapeFree arrival.outcome.text) :
    (loop.step event).1.repl.Unescaped ∧ ∀ piece ∈ (loop.step event).2, piece.Unescaped := by
  by_cases hphase : loop.phase = .waiting
  · rw [step_of_waiting hphase]
    cases event with
    | answered line =>
        have hhandled := h.hidePrompt.handleLine (hline line rfl)
        rcases hresult : (loop.repl.setPrompt none).handleLine line with ⟨goOn, after, output⟩
        rw [hresult] at hhandled
        rw [handle, hresult]
        -- The next prompt goes out only if the session is to go on.
        cases goOn with
        | true => exact ⟨hhandled.repl.showPrompt, hhandled.output⟩
        | false => exact ⟨hhandled.repl, hhandled.output⟩
    | failed failure =>
        rw [handle]
        cases failure.isCancelled with
        | true =>
            have hrow : (Output.out [Line.empty]).Unescaped :=
              List.forall_mem_singleton.2 Line.unescaped_nil
            exact ⟨h.hidePrompt, List.forall_mem_singleton.2 hrow⟩
        | false => exact ⟨h.hidePrompt, List.forall_mem_nil _⟩
    | closed => exact ⟨h.hidePrompt, List.forall_mem_nil _⟩
    | polled => exact ⟨h.poll, List.forall_mem_nil _⟩
    | received arrival =>
        have hreceived := h.receive (hreply arrival rfl)
        exact ⟨hreceived.repl, hreceived.output⟩
  · rw [(step_of_phase_ne_waiting hphase event).1]
    exact ⟨h, List.forall_mem_nil _⟩

/-- Lines and replies without escapes keep a whole run free of them. -/
theorem unescaped_run (h : loop.repl.Unescaped) {events : List Event}
    (hlines : ∀ line, .answered line ∈ events → EscapeFree line)
    (hreplies : ∀ arrival, .received arrival ∈ events → EscapeFree arrival.outcome.text) :
    (loop.run events).1.repl.Unescaped ∧ ∀ piece ∈ (loop.run events).2, piece.Unescaped := by
  induction events generalizing loop with
  | nil => exact ⟨h, List.forall_mem_nil _⟩
  | cons event rest ih =>
      obtain ⟨hfirst, houtput⟩ := unescaped_step h
        (fun line heq => hlines line (heq ▸ List.mem_cons_self))
        (fun arrival heq => hreplies arrival (heq ▸ List.mem_cons_self))
      obtain ⟨hlast, hothers⟩ := ih hfirst
        (fun line hin => hlines line (List.mem_cons_of_mem event hin))
        (fun arrival hin => hreplies arrival (List.mem_cons_of_mem event hin))
      exact ⟨hlast, List.forall_mem_append.2 ⟨houtput, hothers⟩⟩

/-- What a session puts out at its end: a loop that broke off says no farewell. -/
def lastOutput (loop : Loop) (arrivals : List Arrival) : List Output :=
  match loop.phase with
  | .broken _ => []
  | .waiting | .left => (loop.repl.leave arrivals).2

/-- All that a session puts out from its header to the farewell, where some replies arrive before it
is left and others while it is being left. -/
def wholeOutput (config : ReplConfig) (events : List Event) (arrivals : List Arrival) :
    List Output :=
  let (last, output) := (start config).1.run events
  (start config).2 ++ output ++ last.lastOutput arrivals

theorem unescaped_lastOutput (h : loop.repl.Unescaped) {arrivals : List Arrival}
    (harrivals : ∀ arrival ∈ arrivals, EscapeFree arrival.outcome.text) :
    ∀ piece ∈ loop.lastOutput arrivals, piece.Unescaped := by
  rw [lastOutput]
  split
  · exact List.forall_mem_nil _
  · exact (h.leave harrivals).output
  · exact (h.leave harrivals).output

/-- Deleting the colours from all that a session puts out gives what it puts out without colours. -/
theorem erased_wholeOutput {config : ReplConfig} (hendpoint : EscapeFree config.endpoint)
    {events : List Event} (hlines : ∀ line, .answered line ∈ events → EscapeFree line)
    (hreplies : ∀ arrival, .received arrival ∈ events → EscapeFree arrival.outcome.text)
    {arrivals : List Arrival} (harrivals : ∀ arrival ∈ arrivals, EscapeFree arrival.outcome.text) :
    (Output.streams true (wholeOutput config events arrivals)).erased =
      Output.streams false (wholeOutput config events arrivals) := by
  obtain ⟨hstart, hshown⟩ := unescaped_start hendpoint
  obtain ⟨hrun, houtput⟩ := unescaped_run hstart hlines hreplies
  have hlast := unescaped_lastOutput hrun harrivals
  apply Output.erased_streams
  exact List.forall_mem_append.2 ⟨List.forall_mem_append.2 ⟨hshown, houtput⟩, hlast⟩

end Loop

end Repl

end QueryBridge
