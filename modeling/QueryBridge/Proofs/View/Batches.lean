import Mathlib.Data.List.Count
import QueryBridge.Proofs.Session.LastWriter
import QueryBridge.Proofs.View.Transitions

/-!
# One rendering for several changes

Changes may pile up before the view is asked to render. As long as the log is not cleared and no
entry is loaded among them, the one rendering behind them writes their net effect (`netLines`): the
direction if it is another one than before, the requests that went out and are still in flight, the
result of the latest reply if any reply was applied, and the panel if it opened or got a new entry.

Two facts about a run carry this: the log grows by one entry for each reply (`length_run`), and the
outcome is that of the latest reply (`outcome_run`). So a reply is noticed even where its outcome is
the one on the screen already. Which rows a rendering writes is read off its headings, the rows that
open with a styled text (`headings_netLines`); the main result is `render_writes_net_effect`.
-/

set_option autoImplicit false

namespace QueryBridge

namespace Session

/-! ## Replies of a run -/

/-- Whether a change leaves the entries of the log where they are and loads none of them. -/
def Op.isOrdinary : Op → Bool
  | .clearHistory | .load _ => false
  | .setDirection _ | .edit _ _ | .submit | .poll | .complete _ _ _ | .toggleHistory => true

/-- The outcome of the reply that a moment applies. -/
def Moment.reply? (m : Moment) : Option Outcome :=
  match m.op with
  | .complete d outcome _ => if m.before.inFlightOf d = [] then none else some outcome
  | _ => none

/-- The outcomes of the replies that a run applies, the first one first. -/
def replies (s : Session) (ops : List Op) : List Outcome :=
  (s.moments ops).filterMap Moment.reply?

theorem replies_concat (s : Session) (ops : List Op) (op : Op) :
    s.replies (ops ++ [op]) = s.replies ops ++ (Moment.reply? ⟨s.run ops, op⟩).toList := by
  rw [replies, moments_concat, List.filterMap_append]
  cases h : Moment.reply? ⟨s.run ops, op⟩ <;> simp [replies, h]

section Ordinary

variable {s : Session} {op : Op} {ops : List Op}

/-- Without a load, what comes onto the screen is the outcome of a reply. -/
theorem outcome?_of_isOrdinary (h : op.isOrdinary = true) :
    Moment.outcome? ⟨s, op⟩ = Moment.reply? ⟨s, op⟩ := by
  cases op with
  | load entry => cases h
  | clearHistory => cases h
  | setDirection d => rfl
  | edit d text => rfl
  | submit => rfl
  | poll => rfl
  | complete d outcome now => rfl
  | toggleHistory => rfl

/-- The log grows by one entry where a reply is applied, and not otherwise. -/
theorem length_step (h : op.isOrdinary = true) :
    (s.step op).history.length =
      s.history.length + (Moment.reply? ⟨s, op⟩).toList.length := by
  cases op with
  | complete d outcome now =>
      cases hq : s.inFlightOf d with
      | nil => simp [step_complete_of_nil hq, Moment.reply?, hq]
      | cons request rest =>
          simp [step_complete_of_cons hq, Moment.reply?, hq, applyOutcome]
  | submit =>
      rw [history_step_submit]
      rfl
  | poll => rfl
  | setDirection d => rfl
  | edit d text => rfl
  | toggleHistory => rfl
  | clearHistory => cases h
  | load entry => cases h

/-- A run of ordinary changes adds one entry to the log for each reply. -/
theorem length_run (h : ∀ op ∈ ops, op.isOrdinary = true) :
    (s.run ops).history.length = s.history.length + (s.replies ops).length := by
  induction ops using List.reverseRecOn with
  | nil => rfl
  | append_singleton ops op ih =>
      rw [List.forall_mem_append, List.forall_mem_singleton] at h
      rw [run_concat, length_step h.2, ih h.1, replies_concat, List.length_append]
      omega

theorem outcome_run (h : ∀ op ∈ ops, op.isOrdinary = true) :
    (s.run ops).state.outcome = (s.replies ops).getLast?.or s.state.outcome := by
  induction ops using List.reverseRecOn with
  | nil => rfl
  | append_singleton ops op ih =>
      rw [List.forall_mem_append, List.forall_mem_singleton] at h
      rw [run_concat, outcome_step, outcome?_of_isOrdinary h.2, ih h.1, replies_concat,
        List.getLast?_append]
      cases Moment.reply? ⟨s.run ops, op⟩ <;> simp

end Ordinary

end Session

namespace View

/-! ## Rows of a net effect -/

/-- The rows for a direction that is another one than before. -/
def movedLines (before later : Session) : List Line :=
  if later.state.direction = before.state.direction then []
  else switchedLine later.state.direction ::
    if later.state.activeInput.isEmpty then [] else [inputLine later.state.activeInput]

/-- The directions that were free before and are busy later. -/
def newlyBusy (before later : Session) : List Direction :=
  Direction.all.filter fun d => later.state.isBusy d && !before.state.isBusy d

/-- The rows for a panel that opened, got entries while it was open, or closed. -/
def panelChange (before later : Session) (answered : Bool) : List Line :=
  if later.state.historyVisible then
    if !before.state.historyVisible || answered then historyPanel later.history else []
  else if before.state.historyVisible then [closedLine]
  else []

/-- The rows that tell what has changed between two sessions, given the outcomes of the replies that
were applied in between. -/
def netLines (before later : Session) (replies : List Outcome) : List Line :=
  movedLines before later ++ (newlyBusy before later).map startedLine ++
    replies.getLast?.elim [] resultLines ++ panelChange before later (!replies.isEmpty)

/-- A view in sync writes the net effect of changes that pile up. -/
theorem InSync.lines_run {view : View} {s : Session} (h : view.InSync s) {ops : List Session.Op}
    (hops : ∀ op ∈ ops, op.isOrdinary = true) :
    view.transitionLines (s.run ops).state (s.run ops).history =
      netLines s (s.run ops) (s.replies ops) := by
  have hlength := Session.length_run (s := s) hops
  have houtcome := Session.outcome_run (s := s) hops
  rw [← h.length] at hlength
  -- Each of the five parts of the rows is compared with what has changed.
  have hdirection : view.directionLines (s.run ops).state = movedLines s (s.run ops) := by
    rw [directionLines, h.replayed, h.shown, movedLines]
    by_cases hd : (s.run ops).state.direction = s.state.direction
    · simp [hd]
    · simp [hd, switchedLine]
  have hstarted : view.startLines (s.run ops).state =
      (newlyBusy s (s.run ops)).map startedLine := by
    rw [startLines, h.shown]
    rfl
  have hresult : view.outcomeLines (s.run ops).state (s.run ops).history =
      (s.replies ops).getLast?.elim [] resultLines := by
    rcases List.eq_nil_or_concat (s.replies ops) with hnone | ⟨earlier, latest, hlatest⟩
    · -- Without a reply neither the log nor the outcome has changed.
      rw [hnone] at hlength houtcome ⊢
      exact outcomeLines_eq_nil h.replayed (Nat.le_of_eq hlength) (houtcome.trans h.outcome)
    · rw [List.concat_eq_append] at hlatest
      rw [hlatest] at hlength houtcome ⊢
      rw [List.getLast?_concat, Option.some_or] at houtcome
      rw [List.getLast?_concat]
      refine outcomeLines_of_new (.inr ?_) houtcome
      rw [List.length_append, List.length_singleton] at hlength
      omega
  have hcleared : view.clearedLines (s.run ops).history = [] :=
    clearedLines_eq_nil (hlength ▸ Nat.le_add_right _ _)
  have hpanel : view.panelLines (s.run ops).state (s.run ops).history =
      panelChange s (s.run ops) (!(s.replies ops).isEmpty) := by
    have hchanged : ((s.run ops).history.length ≠ view.shownLength) ↔
        (s.replies ops).isEmpty = false := by
      rw [hlength, List.isEmpty_eq_false_iff, ← List.length_pos_iff]
      omega
    rw [panelLines, h.shown, panelChange]
    simp only [hchanged]
    cases (s.replies ops).isEmpty <;> simp [closedLine]
  rw [transitionLines_of_parts _ _ hdirection hstarted hresult hcleared hpanel, List.append_nil,
    netLines]

/-! ## Headings -/

/-- What a heading announces: a row that opens with a styled text, where rows that show texts of the
user or of the service open with an indent. -/
inductive Heading where
  | loaded (d : Direction)
  | switched (d : Direction)
  | started (d : Direction)
  | result
  | cleared
  | panel
  /-- The row under the entries of the panel. -/
  | footer
  | closed
  deriving DecidableEq, Repr

/-- The row of a heading. -/
def Heading.row : Heading → Line
  | loaded d => loadedLine d
  | switched d => switchedLine d
  | started d => startedLine d
  | result => [Style.header.paint "Result:"]
  | cleared => clearedLine
  | panel => panelTitle
  | footer => [Style.hint.paint "  /load <n> restores an entry, /clear clears the history"]
  | closed => closedLine

/-- Headings are told apart by their rows. -/
theorem Heading.row_inj {heading other : Heading} :
    heading.row = other.row ↔ heading = other := by
  rcases heading with (_ | _) | (_ | _) | (_ | _) | _ | _ | _ | _ | _ <;>
    rcases other with (_ | _) | (_ | _) | (_ | _) | _ | _ | _ | _ | _ <;> decide

/-- Whether a row opens with a styled text. -/
def isHeading (row : Line) : Bool :=
  row.head?.any (·.style.isSome)

/-- The headings among rows, in their order. -/
def headings (lines : List Line) : List Line :=
  lines.filter isHeading

theorem headings_append (first others : List Line) :
    headings (first ++ others) = headings first ++ headings others :=
  List.filter_append _ _

theorem Heading.isHeading_row (heading : Heading) : isHeading heading.row = true := by
  cases heading <;> rfl

theorem Heading.row_mem_headings (heading : Heading) (lines : List Line) :
    heading.row ∈ headings lines ↔ heading.row ∈ lines := by
  rw [headings, List.mem_filter, and_iff_left heading.isHeading_row]

theorem headings_map_row (announced : List Heading) :
    headings (announced.map Heading.row) = announced.map Heading.row := by
  refine List.filter_eq_self.2 fun row hrow => ?_
  obtain ⟨heading, -, rfl⟩ := List.mem_map.1 hrow
  exact heading.isHeading_row

/-- The rows of an outcome have one heading, that of a result, whatever its text is. -/
theorem headings_resultLines (outcome : Outcome) :
    headings (resultLines outcome) = [Heading.result.row] := by
  -- The lines of the outcome are indented, and the last row is empty.
  have hbody : headings ((Text.linesOf outcome.text).map fun row =>
      [Span.plain "  ", (if outcome.isFailure then Style.error else Style.value).paint row]) =
        [] := by
    refine List.filter_eq_nil_iff.2 fun row hrow => ?_
    obtain ⟨text, -, rfl⟩ := List.mem_map.1 hrow
    exact Bool.false_ne_true
  rw [resultLines, List.cons_append, headings, List.filter_cons_of_pos rfl, ← headings,
    headings_append, hbody]
  rfl

theorem headings_numberedEntries (number : Nat) (entries : List HistoryEntry) :
    headings (numberedEntries number entries) = [] := by
  induction entries generalizing number with
  | nil => rfl
  | cons entry rest ih =>
      rw [numberedEntries, headings_append, ih]
      rfl

/-- The headings of the panel of a log. -/
def panelHeadings (log : History) : List Heading :=
  .panel :: if log.isEmpty then [] else [.footer]

theorem headings_historyPanel (log : History) :
    headings (historyPanel log) = (panelHeadings log).map Heading.row := by
  rw [historyPanel, List.cons_append, headings, List.filter_cons_of_pos rfl, ← headings,
    headings_append, panelHeadings]
  cases log.isEmpty with
  | true => rfl
  | false =>
      rw [if_neg Bool.false_ne_true, if_neg Bool.false_ne_true, headings_append,
        headings_numberedEntries]
      rfl

/-- The headings of a net effect. -/
def netHeadings (before later : Session) (replies : List Outcome) : List Heading :=
  (if later.state.direction = before.state.direction then []
    else [.switched later.state.direction]) ++
  (newlyBusy before later).map .started ++
  (if replies.isEmpty then [] else [.result]) ++
  (if later.state.historyVisible && (!before.state.historyVisible || !replies.isEmpty) then
    panelHeadings later.history else []) ++
  if before.state.historyVisible && !later.state.historyVisible then [.closed] else []

/-- The headings of the rows for a net change are those that are announced. -/
theorem headings_netLines (before later : Session) (replies : List Outcome) :
    headings (netLines before later replies) =
      (netHeadings before later replies).map Heading.row := by
  -- The rows come in four parts, and each announces its own headings.
  have hmoved : headings (movedLines before later) =
      (if later.state.direction = before.state.direction then []
        else [Heading.switched later.state.direction]).map Heading.row := by
    rw [movedLines]
    split
    · rfl
    · split <;> rfl
  have hstarted : headings ((newlyBusy before later).map startedLine) =
      ((newlyBusy before later).map Heading.started).map Heading.row := by
    rw [← headings_map_row, List.map_map]
    rfl
  have hresult : headings (replies.getLast?.elim [] resultLines) =
      (if replies.isEmpty then [] else [Heading.result]).map Heading.row := by
    rcases List.eq_nil_or_concat replies with rfl | ⟨earlier, latest, rfl⟩
    · rfl
    · rw [List.concat_eq_append, List.getLast?_concat, Option.elim_some, headings_resultLines]
      simp
  have hpanel : headings (panelChange before later (!replies.isEmpty)) =
      ((if later.state.historyVisible && (!before.state.historyVisible || !replies.isEmpty) then
        panelHeadings later.history else []) ++
      if before.state.historyVisible && !later.state.historyVisible then [Heading.closed]
      else []).map Heading.row := by
    rw [panelChange]
    cases later.state.historyVisible with
    | false => cases before.state.historyVisible <;> rfl
    | true =>
        rw [Bool.not_true, Bool.and_false, Bool.true_and, if_pos rfl, if_neg Bool.false_ne_true,
          List.append_nil]
        split
        · exact headings_historyPanel later.history
        · rfl
  rw [netLines, headings_append, headings_append, headings_append, hmoved, hstarted, hresult,
    hpanel, netHeadings, ← List.map_append, ← List.map_append, ← List.map_append,
    ← List.append_assoc]

/-- When a heading is due between two sessions, given the outcomes of the replies that were applied
in between. -/
def Heading.IsDue (before later : Session) (replies : List Outcome) : Heading → Prop
  | switched d => later.state.direction ≠ before.state.direction ∧ d = later.state.direction
  | started d => before.state.isBusy d = false ∧ later.state.isBusy d = true
  | result => replies ≠ []
  | panel => later.state.historyVisible = true ∧
      (before.state.historyVisible = false ∨ replies ≠ [])
  | footer => later.state.historyVisible = true ∧
      (before.state.historyVisible = false ∨ replies ≠ []) ∧ later.history.isEmpty = false
  | closed => before.state.historyVisible = true ∧ later.state.historyVisible = false
  | loaded _ | cleared => False

theorem mem_newlyBusy {before later : Session} {d : Direction} :
    d ∈ newlyBusy before later ↔ before.state.isBusy d = false ∧ later.state.isBusy d = true := by
  have hall : d ∈ Direction.all := by cases d <;> decide
  rw [newlyBusy, List.mem_filter, and_iff_right hall, Bool.and_eq_true, Bool.not_eq_true', and_comm]

theorem mem_netHeadings (before later : Session) (replies : List Outcome) (heading : Heading) :
    heading ∈ netHeadings before later replies ↔ heading.IsDue before later replies := by
  cases heading <;>
    simp [netHeadings, panelHeadings, mem_newlyBusy, Heading.IsDue, and_assoc]

/-- Of all replies one result is announced. -/
theorem count_result_netHeadings (before later : Session) (replies : List Outcome) :
    (netHeadings before later replies).count .result = if replies.isEmpty then 0 else 1 := by
  have hmoved : (if later.state.direction = before.state.direction then []
      else [Heading.switched later.state.direction]).count .result = 0 := by
    split <;> rfl
  have hstarted : ((newlyBusy before later).map Heading.started).count .result = 0 :=
    List.count_eq_zero.2 (by simp)
  have hpanel (shown : Bool) :
      (if shown then panelHeadings later.history else []).count .result = 0 :=
    List.count_eq_zero.2 (by simp [panelHeadings])
  have hclosed (hidden : Bool) : (if hidden then [Heading.closed] else []).count .result = 0 := by
    cases hidden <;> rfl
  rw [netHeadings, List.count_append, List.count_append, List.count_append, List.count_append,
    hmoved, hstarted, hpanel, hclosed]
  cases replies.isEmpty <;> rfl

/-- What rows tell of the changes between two sessions, given the outcomes of the replies that were
applied in between. -/
structure Tells (before later : Session) (replies : List Outcome) (lines : List Line) : Prop where
  /-- A heading stands among the rows where it is due. -/
  headings : ∀ heading : Heading, heading.row ∈ lines ↔ heading.IsDue before later replies
  /-- There is one result if a reply was applied, and none otherwise. -/
  results : lines.count Heading.result.row = if replies.isEmpty then 0 else 1

/-- The rows for a net change tell what came of all changes together. -/
theorem tells_netLines (before later : Session) (replies : List Outcome) :
    Tells before later replies (netLines before later replies) where
  headings := by
    intro heading
    rw [← heading.row_mem_headings, headings_netLines, ← mem_netHeadings, List.mem_map]
    simp only [Heading.row_inj, exists_eq_right]
  results := by
    have hcount : (View.headings (netLines before later replies)).count Heading.result.row =
        (netLines before later replies).count Heading.result.row :=
      List.count_filter Heading.result.isHeading_row
    rw [← hcount, headings_netLines,
      List.count_map_of_injective _ Heading.row fun _ _ => Heading.row_inj.1,
      count_result_netHeadings]

/-! ## Rendering twice -/

/-- A view that has rendered a session has nothing to add. -/
theorem InSync.lines_eq_nil {view : View} {s : Session} (h : view.InSync s) :
    view.transitionLines s.state s.history = [] :=
  h.lines_of_inputs s.state.inputs

/-- And rendering it again does not change the view. -/
theorem InSync.sync_eq {view : View} {s : Session} (h : view.InSync s) :
    view.sync s.state s.history = view := by
  obtain ⟨hshown, hlength, hreplayed⟩ := h
  rw [sync, ← hshown, ← hlength, ← hreplayed]

end View

namespace Console

/-- So showing a session once more does nothing. -/
theorem render_of_inSync {console : Console} (h : console.view.InSync console.session) :
    console.render = (console, []) := by
  have hlines : console.view.transitionLines console.session.state console.session.history = [] :=
    h.lines_eq_nil
  have hview : console.view.sync console.session.state console.session.history = console.view :=
    h.sync_eq
  rw [render, ViewCall.ofSession, View.respond, hlines, hview]
  rfl

/-- The one rendering behind changes that pile up, without a clearing or a load among them, writes
their net effect under the prompt that is shown, and leaves the view in sync: the direction if it is
another one than was rendered, each request that went out and is in flight, one result, that of the
latest reply, if any reply was applied, and the panel if it opened or got an entry. Rendering what
was rendered just before writes nothing, whatever the view and the state are. -/
theorem render_writes_net_effect :
    (∀ (view : View) (s : Session) (ops : List Session.Op), view.InSync s →
      (∀ op ∈ ops, op.isOrdinary = true) →
      let later := s.run ops
      let lines := View.netLines s later (s.replies ops)
      (⟨later, view⟩ : Console).render =
        (⟨later, view.sync later.state later.history⟩, view.emit lines) ∧
      (view.sync later.state later.history).InSync later ∧
      View.Tells s later (s.replies ops) lines) ∧
    ∀ (view : View) (state : SessionState) (history : History),
      let shown := (view.respond (.render state history)).1
      shown.respond (.render state history) = (shown, []) := by
  constructor
  · intro view s ops hsync hops later lines
    refine ⟨?_, View.sync_inSync view later, View.tells_netLines _ _ _⟩
    have hlines : view.transitionLines later.state later.history = lines := hsync.lines_run hops
    rw [← hlines]
    rfl
  · intro view state history shown
    -- Any state and history are those of some session.
    have hsync : shown.InSync { state := state, history := history } :=
      View.sync_inSync view { state := state, history := history }
    have hlines : shown.transitionLines state history = [] := hsync.lines_eq_nil
    rw [View.respond, hlines]
    rfl

/-- A session that waits for the second answer to the same query. -/
def askedAgain : Session :=
  Session.new.run [.edit .sqlToMongo "SELECT 1", .submit,
    .complete .sqlToMongo (.success "db.a.find()") 3, .submit]

/-- The same answer arrives again and the query goes out a third time, the panel opens and closes,
and the other direction is put to work: all of it is rendered at once. -/
theorem askedAgain_renders_once :
    let view := ({} : View).sync askedAgain.state askedAgain.history
    let ops : List Session.Op := [.complete .sqlToMongo (.success "db.a.find()") 5, .submit,
      .toggleHistory, .setDirection .mongoToSql, .toggleHistory, .edit .mongoToSql "db.t.find()",
      .submit]
    view.InSync askedAgain ∧ (∀ op ∈ ops, op.isOrdinary = true) ∧
    (⟨askedAgain.run ops, view⟩ : Console).render.2 =
      [⟨[View.switchedLine .mongoToSql, View.inputLine "db.t.find()",
        View.startedLine .mongoToSql] ++ View.resultLines (.success "db.a.find()"), none⟩] := by
  intro view ops
  have hsync : view.InSync askedAgain := View.sync_inSync {} askedAgain
  have hops : ∀ op ∈ ops, op.isOrdinary = true := by decide
  refine ⟨hsync, hops, ?_⟩
  rw [(render_writes_net_effect.1 view askedAgain ops hsync hops).1]
  decide

end Console

end QueryBridge
