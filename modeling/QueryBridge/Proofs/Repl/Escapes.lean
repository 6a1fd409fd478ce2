import QueryBridge.Proofs.Repl.Grammar
import QueryBridge.Proofs.Repl.PromptMode
import QueryBridge.Proofs.View.Rows

/-!
# Sessions without escape characters

Where no text of a session has an escape character, the view shows none
(`View.unescaped_respondAll`), and neither does anything else that an interactive session puts out.
It stays so in whatever happens to the session, provided that what comes from outside has none: the
pieces of a line have only characters of the line (`Input.unescaped_parse`), a reply adds the text
of a request and of its outcome, and loading an entry brings back texts that were there before.
-/

set_option autoImplicit false

namespace QueryBridge

open Line

/-! ## Sessions without escape characters -/

/-- No escape character is in the texts that a view shows of a session. -/
structure SessionState.Unescaped (state : SessionState) (history : History) : Prop where
  inputs : ∀ d, EscapeFree (state.input d)
  outcome : ∀ outcome ∈ state.outcome, EscapeFree outcome.text
  entries : ∀ entry ∈ history.entries, EscapeFree entry.input ∧ EscapeFree entry.output

namespace Session

/-- No escape character is in the texts of a session. -/
structure Unescaped (s : Session) : Prop where
  shown : s.state.Unescaped s.history
  inFlight : ∀ request ∈ s.inFlight, EscapeFree request.text

section

variable {s : Session}

theorem unescaped_new : Unescaped new := by
  refine ⟨⟨?_, ?_, ?_⟩, ?_⟩
  · intro d
    cases d <;> decide
  · rintro outcome ⟨⟩
  · exact List.forall_mem_nil _
  · exact List.forall_mem_nil _

theorem Unescaped.edit (h : s.Unescaped) (d : Direction) {text : String} (ht : EscapeFree text) :
    (s.edit d text).Unescaped := by
  refine ⟨⟨?_, h.shown.outcome, h.shown.entries⟩, h.inFlight⟩
  intro e
  rw [SessionState.input, Session.edit, PerDirection.get_set]
  split
  · exact ht
  · exact h.shown.inputs e

/-- A submission sends the text of a buffer, which has no escapes. -/
theorem Unescaped.submit (h : s.Unescaped) : s.submit.2.Unescaped := by
  rw [Session.submit]
  split
  · exact h
  · split
    · exact h
    · refine ⟨⟨h.shown.inputs, h.shown.outcome, h.shown.entries⟩, ?_⟩
      intro request hin
      rcases List.mem_append.1 hin with hin | hin
      · exact h.inFlight request hin
      · rw [List.mem_singleton.1 hin]
        exact h.shown.inputs s.state.direction

theorem Unescaped.poll (h : s.Unescaped) : s.poll.Unescaped :=
  ⟨⟨h.shown.inputs, h.shown.outcome, h.shown.entries⟩, h.inFlight⟩

/-- A reply adds the texts of the request and of the outcome, and no others. -/
theorem Unescaped.applyOutcome (h : s.Unescaped) {request : Request} (hr : EscapeFree request.text)
    {outcome : Outcome} (ho : EscapeFree outcome.text) (now : Instant) :
    (s.applyOutcome request outcome now).Unescaped := by
  refine ⟨⟨h.shown.inputs, ?_, ?_⟩, ?_⟩
  · rintro other ⟨⟩
    exact ho
  · intro entry hin
    rcases List.mem_append.1 hin with hin | hin
    · exact h.shown.entries entry hin
    · rw [List.mem_singleton.1 hin]
      exact ⟨hr, ho⟩
  · intro other hin
    exact h.inFlight other (List.mem_of_mem_eraseP hin)

/-- Loading an entry brings back its input and its output. -/
theorem Unescaped.load (h : s.Unescaped) {entry : HistoryEntry}
    (he : EscapeFree entry.input ∧ EscapeFree entry.output) : (s.load entry).Unescaped := by
  refine ⟨⟨?_, ?_, h.shown.entries⟩, h.inFlight⟩
  · intro e
    rw [SessionState.input, Session.load, PerDirection.get_set]
    split
    · exact he.1
    · exact h.shown.inputs e
  · rintro other ⟨⟩
    exact he.2

theorem Unescaped.setDirection (h : s.Unescaped) (d : Direction) : (s.setDirection d).Unescaped :=
  ⟨⟨h.shown.inputs, h.shown.outcome, h.shown.entries⟩, h.inFlight⟩

theorem Unescaped.toggleHistory (h : s.Unescaped) : s.toggleHistory.Unescaped :=
  ⟨⟨h.shown.inputs, h.shown.outcome, h.shown.entries⟩, h.inFlight⟩

theorem Unescaped.clearHistory (h : s.Unescaped) : s.clearHistory.Unescaped :=
  ⟨⟨h.shown.inputs, h.shown.outcome, List.forall_mem_nil _⟩, h.inFlight⟩

/-- An entry that can be loaded is in the history. -/
theorem Unescaped.entry (h : s.Unescaped) {index : Nat} {entry : HistoryEntry}
    (hentry : s.history.get? index = some entry) :
    EscapeFree entry.input ∧ EscapeFree entry.output :=
  h.shown.entries entry (List.mem_of_getElem? hentry)

end

end Session

/-! ## The view -/

/-- No escape character is in the texts of a call of the view. -/
def ViewCall.Unescaped : ViewCall → Prop
  | .render state history => state.Unescaped history
  | .copyResult text => EscapeFree text
  | .notice message => EscapeFree message
  | .entryLoaded _ => True

namespace View

variable {view : View}

/-- A view writes nothing of its own that has an escape. -/
theorem unescaped_transitionLines {state : SessionState} {history : History}
    (h : state.Unescaped history) : AllUnescaped (view.transitionLines state history) := by
  refine allLack_transitionLines (show escape.toNat < 32 by decide) ?_ ?_ ?_
  · exact escapeFree_previewOf (h.inputs state.direction)
  · intro outcome houtcome row hrow hin
    exact h.outcome outcome houtcome (Text.mem_of_mem_lines hrow hin)
  · intro entry hentry
    exact escapeFree_previewOf (h.entries entry hentry).1

theorem unescaped_emit (hprompt : ∀ message ∈ view.prompt, EscapeFree message) {lines : List Line}
    (h : AllUnescaped lines) : ∀ emission ∈ view.emit lines, emission.Unescaped := by
  intro emission hin
  rw [emit] at hin
  split at hin
  · cases hin
  · rw [List.mem_singleton.1 hin]
    exact ⟨h, hprompt⟩

/-- The answer to a call has escapes only if the call or the prompt has. -/
theorem unescaped_respond (hprompt : ∀ message ∈ view.prompt, EscapeFree message) {call : ViewCall}
    (h : call.Unescaped) : ∀ emission ∈ (view.respond call).2, emission.Unescaped := by
  cases call with
  | render state history => exact unescaped_emit hprompt (unescaped_transitionLines h)
  | copyResult text =>
      have htext : EscapeFree text := h
      have hrow : AllUnescaped [Line.plain text] := by simp [Line.plain, htext]
      exact unescaped_emit hprompt hrow
  | notice message =>
      have hmessage : EscapeFree message := h
      have hrow : AllUnescaped [[Style.warning.paint "!", .plain " ", .plain message]] := by
        simp +decide [hmessage]
      exact unescaped_emit hprompt hrow
  | entryLoaded entry => exact List.forall_mem_nil _

theorem unescaped_respondAll (hprompt : ∀ message ∈ view.prompt, EscapeFree message)
    {calls : List ViewCall} (h : ∀ call ∈ calls, call.Unescaped) :
    ∀ emission ∈ (view.respondAll calls).2, emission.Unescaped := by
  induction calls generalizing view with
  | nil => exact List.forall_mem_nil _
  | cons call rest ih =>
      obtain ⟨hcall, hrest⟩ := List.forall_mem_cons.1 h
      have hlater : ∀ message ∈ (view.respond call).1.prompt, EscapeFree message := by
        rw [(view.prompt_respond call).1]
        exact hprompt
      intro emission hin
      rcases List.mem_append.1 hin with hin | hin
      · exact unescaped_respond hprompt hcall emission hin
      · exact ih hlater hrest emission hin

end View

/-! ## Intents and lines -/

/-- No escape character is in the text of an intent. -/
def Intent.Unescaped : Intent → Prop
  | .editInput _ text => EscapeFree text
  | .submit | .switchDirection _ | .toggleHistory | .selectEntry _ | .clearHistory
  | .copyResult => True

/-- An intent leads from a session without escape characters to such a session, by calls of the view
without them. -/
theorem Session.Unescaped.apply {s : Session} (hs : s.Unescaped) {intent : Intent}
    (h : intent.Unescaped) :
    (intent.apply s).1.Unescaped ∧ ∀ call ∈ (intent.apply s).2, call.Unescaped := by
  -- Most intents show the session as it then is, and nothing else.
  have hshown {after : Session} (ha : after.Unescaped) :
      after.Unescaped ∧ ∀ call ∈ [ViewCall.ofSession after], call.Unescaped :=
    ⟨ha, List.forall_mem_singleton.2 ha.shown⟩
  cases intent with
  | submit => exact hshown hs.submit
  | switchDirection d => exact hshown (hs.setDirection d)
  | editInput d text => exact hshown (hs.edit d h)
  | toggleHistory => exact hshown hs.toggleHistory
  | clearHistory => exact hshown hs.clearHistory
  | selectEntry index =>
      cases hentry : s.history.get? index with
      | none =>
          have hnumber := escapeFree_ofList.2 (escape_not_mem_decimal (index + 1))
          have hnotice : EscapeFree (missingEntryNotice index) :=
            escapeFree_append.2 ⟨by decide, hnumber⟩
          have hcall : (ViewCall.notice (missingEntryNotice index)).Unescaped := hnotice
          rw [Intent.apply, hentry]
          exact ⟨hs, List.forall_mem_singleton.2 hcall⟩
      | some entry =>
          have hloaded : (s.load entry).Unescaped := hs.load (hs.entry hentry)
          rw [Intent.apply, hentry]
          exact ⟨hloaded, List.forall_mem_cons.2 ⟨trivial, (hshown hloaded).2⟩⟩
  | copyResult =>
      cases hresult : s.state.outcome with
      | none =>
          have hnotice : EscapeFree nothingToCopyNotice := by decide
          have hcall : (ViewCall.notice nothingToCopyNotice).Unescaped := hnotice
          rw [Intent.apply, hresult]
          exact ⟨hs, List.forall_mem_singleton.2 hcall⟩
      | some outcome =>
          have hcall : (ViewCall.copyResult outcome.text).Unescaped :=
            hs.shown.outcome outcome hresult
          rw [Intent.apply, hresult]
          exact ⟨hs, List.forall_mem_singleton.2 hcall⟩

/-- No escape character is in the text of a command. -/
def Command.Unescaped : Command → Prop
  | .draft text | .unknown text => EscapeFree text
  | .direction _ | .switch | .submit | .history | .load _ | .clear | .copy | .status | .config
  | .help | .quit => True

/-- No escape character is in the text of what a line means. -/
def Input.Unescaped : Input → Prop
  | .empty => True
  | .text query => EscapeFree query
  | .command c => c.Unescaped

/-- Trimming adds no characters. -/
theorem Text.mem_of_mem_trim {c : Char} {s : List Char} (h : c ∈ trim s) : c ∈ s := by
  have hreverse : c ∈ (trimStart s).reverse :=
    (List.dropWhile_sublist _).subset (List.mem_reverse.1 h)
  exact (List.dropWhile_sublist _).subset (List.mem_reverse.1 hreverse)

/-- A draft is a part of the text behind the slash, and a command that is not known is all of it. -/
theorem Command.Means.unescaped {behind : List Char} {command : Command}
    (hmeans : command.Means behind) (h : escape ∉ behind) : command.Unescaped := by
  cases hmeans with
  | @listed word rest _ hword hrest hnames =>
      generalize String.ofList word = w at hnames
      cases hnames with
      | draft =>
          rw [Unescaped, escapeFree_ofList]
          exact fun hin => h (List.mem_append_right word (Text.mem_of_mem_trim hin))
      | _ => trivial
  | unlisted hword hrest hnone => exact escapeFree_ofList.2 h

/-- What a line means has no escapes if the line has none. -/
theorem Input.unescaped_parse {line : String} (h : EscapeFree line) : (parse line).Unescaped := by
  have htrimmed : escape ∉ Text.trim line.toList := fun hin => h (Text.mem_of_mem_trim hin)
  cases hparse : parse line with
  | empty => trivial
  | text query =>
      obtain ⟨hquery, -⟩ := parse_eq_text_iff.1 hparse
      rw [← hquery] at htrimmed
      exact htrimmed
  | command command =>
      obtain ⟨behind, htrim, hmeans⟩ := parse_eq_command_iff.1 hparse
      rw [htrim] at htrimmed
      exact hmeans.unescaped fun hin => htrimmed (List.mem_cons_of_mem _ hin)

namespace Repl

/-! ## Interactive sessions without escape characters -/

section Lines

variable {repl : Repl}

/-- No escape character is in the texts of an interactive session. -/
structure Unescaped (repl : Repl) : Prop where
  endpoint : EscapeFree repl.config.endpoint
  session : repl.session.Unescaped
  prompt : ∀ message ∈ repl.console.view.prompt, EscapeFree message

/-- No escape character is in an interactive session and in what it puts out. -/
structure UnescapedAfter (result : Repl × List Output) : Prop where
  repl : result.1.Unescaped
  output : ∀ piece ∈ result.2, piece.Unescaped

theorem UnescapedAfter.append {after : Repl} {first later : List Output}
    (hfirst : ∀ piece ∈ first, piece.Unescaped) (h : UnescapedAfter (after, later)) :
    UnescapedAfter (after, first ++ later) :=
  ⟨h.repl, List.forall_mem_append.2 ⟨hfirst, h.output⟩⟩

theorem unescaped_map_screen {emissions : List Emission}
    (h : ∀ emission ∈ emissions, emission.Unescaped) :
    ∀ piece ∈ emissions.map Output.screen, piece.Unescaped := by
  intro piece hin
  obtain ⟨emission, hemission, rfl⟩ := List.mem_map.1 hin
  exact h emission hemission

theorem unescaped_new {config : ReplConfig} (h : EscapeFree config.endpoint) :
    (new config).Unescaped := by
  refine ⟨h, Session.unescaped_new.setDirection config.direction, ?_⟩
  rintro message ⟨⟩

theorem Unescaped.setPrompt (h : repl.Unescaped) {message : Option String}
    (hmessage : ∀ text ∈ message, EscapeFree text) : (repl.setPrompt message).Unescaped :=
  ⟨h.endpoint, h.session, hmessage⟩

theorem Unescaped.hidePrompt (h : repl.Unescaped) : (repl.setPrompt none).Unescaped :=
  h.setPrompt (by rintro message ⟨⟩)

/-- The prompt of a session has no escape character, so showing it keeps the session without
them. -/
theorem Unescaped.showPrompt (h : repl.Unescaped) : repl.showPrompt.Unescaped := by
  refine h.setPrompt ?_
  rintro message ⟨⟩
  exact View.escapeFree_promptMessage repl.state

/-- Polling brings no text to a session. -/
theorem Unescaped.poll (h : repl.Unescaped) : repl.poll.Unescaped :=
  ⟨h.endpoint, h.session.poll, h.prompt⟩

/-- A gesture without escapes shows none, and leaves none behind. -/
theorem Unescaped.apply (h : repl.Unescaped) {intent : Intent} (hintent : intent.Unescaped) :
    UnescapedAfter (repl.apply intent) := by
  obtain ⟨hsession, hcalls⟩ := h.session.apply hintent
  refine ⟨⟨h.endpoint, hsession, ?_⟩, ?_⟩
  · rw [(keepsPrompt_apply repl intent).record]
    exact h.prompt
  · exact unescaped_map_screen (View.unescaped_respondAll h.prompt hcalls)

theorem Unescaped.render (h : repl.Unescaped) : UnescapedAfter repl.render := by
  have hcall : (ViewCall.ofSession repl.console.session).Unescaped := h.session.shown
  refine ⟨⟨h.endpoint, h.session, ?_⟩, ?_⟩
  · rw [(keepsPrompt_render repl).record]
    exact h.prompt
  · exact unescaped_map_screen (View.unescaped_respond h.prompt hcall)

theorem unescaped_gesture? {command : Command} (h : command.Unescaped) :
    ∀ intent ∈ repl.gesture? command, intent.Unescaped := by
  intro intent hin
  cases command with
  | draft text =>
      cases hin
      exact h
  | submit =>
      rw [gesture?] at hin
      split at hin
      · cases hin
        exact trivial
      · cases hin
  | load number =>
      obtain ⟨n, -, rfl⟩ := Option.map_eq_some_iff.1 hin
      exact trivial
  | _ =>
      cases hin
      try exact trivial

/-- The reasons for refusing a submission have no escapes. -/
theorem escapeFree_refusal (state : SessionState) : EscapeFree (refusal state) := by
  rw [refusal]
  split
  · simp +decide
  · decide

/-- The remark on a command shows texts of the command and of the session only. -/
theorem Unescaped.remark (h : repl.Unescaped) {command : Command} (hcommand : command.Unescaped) :
    ∀ piece ∈ repl.remark command, piece.Unescaped := by
  have hone {piece : Output} (hpiece : piece.Unescaped) :
      ∀ other ∈ [piece], other.Unescaped :=
    List.forall_mem_singleton.2 hpiece
  cases command with
  | submit =>
      have hrow : AllUnescaped [[Style.hint.paint (refusal repl.state)]] := by
        simp [escapeFree_refusal]
      exact unescaped_map_screen (View.unescaped_emit h.prompt hrow)
  | load number => exact hone (Screen.unescaped_error (by decide))
  | status => exact hone (Screen.unescaped_status h.session.shown.inputs)
  | config => exact hone (Screen.unescaped_config h.endpoint)
  | help => exact hone Screen.unescaped_help
  | unknown text =>
      have htext : EscapeFree text := hcommand
      exact hone (Screen.unescaped_error (by simp +decide [htext]))
  | _ => exact List.forall_mem_nil _

theorem Unescaped.handleCommand (h : repl.Unescaped) {command : Command}
    (hcommand : command.Unescaped) : UnescapedAfter (repl.handleCommand command).2 := by
  rw [handleCommand_eq]
  cases hgesture : repl.gesture? command with
  | none => exact ⟨h, h.remark hcommand⟩
  | some intent => exact h.apply (unescaped_gesture? hcommand intent hgesture)

/-- A line without escape characters keeps the session without them and is answered without them. -/
theorem Unescaped.handleLine (h : repl.Unescaped) {line : String} (hline : EscapeFree line) :
    UnescapedAfter (repl.handleLine line).2 := by
  have hinput : (Input.parse line).Unescaped := Input.unescaped_parse hline
  rw [Repl.handleLine]
  cases hparse : Input.parse line with
  | empty => exact ⟨h, List.forall_mem_nil _⟩
  | text query =>
      rw [hparse] at hinput
      -- A query is an edit followed by the command that submits.
      have hedited : UnescapedAfter (repl.apply (.editInput repl.state.direction query)) :=
        h.apply hinput
      have hsubmit : Command.submit.Unescaped := trivial
      exact UnescapedAfter.append hedited.output (hedited.repl.handleCommand hsubmit)
  | command command =>
      rw [hparse] at hinput
      exact h.handleCommand hinput

theorem Unescaped.receive (h : repl.Unescaped) {arrival : Arrival}
    (harrival : EscapeFree arrival.outcome.text) : UnescapedAfter (repl.receive arrival).2 := by
  cases hp : repl.session.pending? arrival.direction with
  | none =>
      rw [receive_of_none hp]
      exact ⟨h, List.forall_mem_nil _⟩
  | some request =>
      have hrequest : EscapeFree request.text :=
        h.session.inFlight request (List.mem_of_find?_eq_some hp)
      have happlied := h.session.applyOutcome hrequest harrival arrival.now
      rw [receive_of_pending hp]
      exact Unescaped.render ⟨h.endpoint, happlied, h.prompt⟩

theorem Unescaped.await (h : repl.Unescaped) {arrivals : List Arrival}
    (harrivals : ∀ arrival ∈ arrivals, EscapeFree arrival.outcome.text) :
    UnescapedAfter (repl.await arrivals) := by
  induction arrivals generalizing repl with
  | nil => exact ⟨h, List.forall_mem_nil _⟩
  | cons arrival rest ih =>
      obtain ⟨harrival, hrest⟩ := List.forall_mem_cons.1 harrivals
      by_cases hidle : repl.session.inFlight = []
      · rw [await_of_idle hidle]
        exact ⟨h, List.forall_mem_nil _⟩
      · have hfirst := h.receive harrival
        rw [await_cons hidle]
        exact UnescapedAfter.append hfirst.output (ih hfirst.repl hrest)

/-- Leaving shows no escapes, if the replies that are waited for have none. -/
theorem Unescaped.leave (h : repl.Unescaped) {arrivals : List Arrival}
    (harrivals : ∀ arrival ∈ arrivals, EscapeFree arrival.outcome.text) :
    UnescapedAfter (repl.leave arrivals) := by
  have hlast := h.hidePrompt.await harrivals
  have hnotice : ∀ piece ∈ (repl.setPrompt none).waitingNotice, piece.Unescaped := by
    rw [waitingNotice]
    split
    · exact List.forall_mem_singleton.2 (Screen.unescaped_waiting _)
    · exact List.forall_mem_nil _
  refine ⟨hlast.repl, ?_⟩
  refine List.forall_mem_append.2 ⟨List.forall_mem_append.2 ⟨hnotice, hlast.output⟩, ?_⟩
  exact List.forall_mem_singleton.2 (Screen.unescaped_goodbye _)

end Lines

end Repl

end QueryBridge
