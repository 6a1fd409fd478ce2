import QueryBridge.Proofs.Repl.Course
import QueryBridge.Proofs.Repl.Grammar

/-!
# Numbers of history entries

The history panel shows the entries of the log under numbers that count from one. A number that it
has shown stays the number of its entry until the log is cleared, because replies only add entries
behind the others (`entries_prefix_play`). Loading that number restores the entry and touches
nothing else; any other argument of the command leaves everything as it was, and a number that no
entry has is named in the remark about it (`shown_number_loads_entry`).

Numbers that a user types fit in 64 bits, so counting from one to counting from zero and back never
leaves them (`typed_number_fits`).
-/

set_option autoImplicit false

namespace QueryBridge

/-! ## Lines that ask for an entry -/

/-- A line that asks for a history entry: the command word and, behind a gap, the argument, with any
white space around them. -/
def LoadLine (line : String) (argument : List Char) : Prop :=
  ∃ before gap after, line = String.ofList (before ++ "/load".toList ++ gap ++ argument ++ after) ∧
    Text.isBlank before = true ∧ Text.isBlank gap = true ∧ Text.isBlank after = true ∧
    (gap = [] → argument = []) ∧ Text.trim argument = argument

/-- A line that asks for an entry is read as the number that its argument spells. -/
theorem LoadLine.parse {line : String} {argument : List Char} (h : LoadLine line argument) :
    Input.parse line = .command (.load (entryNumber? argument)) := by
  obtain ⟨before, gap, after, rfl, hbefore, hgap, hafter, hnone, htrim⟩ := h
  have hmeans := Input.means_command before gap after hbefore hgap hafter hnone
    (Text.trim_eq_self_iff.1 htrim) (Command.names_load argument)
  rw [Input.parse_eq_iff_means, String.toList_ofList]
  simpa using hmeans

namespace Session

/-! ## The log over a run -/

/-- Every change but the clearing leaves the entries of the log where they are. -/
theorem entries_prefix_step {s : Session} {op : Op} (h : op ≠ .clearHistory) :
    s.history.entries <+: (s.step op).history.entries := by
  cases op with
  | clearHistory => exact absurd rfl h
  | submit =>
      simp only [history_step_submit, List.prefix_rfl]
  | complete d outcome now =>
      cases hp : s.pending? d with
      | none =>
          simp only [step_complete_of_none hp, List.prefix_rfl]
      | some request =>
          rw [step_complete_of_pending hp]
          exact List.prefix_append _ _
  | poll => exact List.prefix_refl _
  | setDirection d => exact List.prefix_refl _
  | edit d text => exact List.prefix_refl _
  | toggleHistory => exact List.prefix_refl _
  | load entry => exact List.prefix_refl _

/-- Unless the log is cleared, it only grows at its end. -/
theorem entries_prefix_run {ops : List Op} (h : ∀ op ∈ ops, op ≠ .clearHistory) (s : Session) :
    s.history.entries <+: (s.run ops).history.entries := by
  induction ops generalizing s with
  | nil => exact List.prefix_refl _
  | cons op ops ih =>
      rw [List.forall_mem_cons] at h
      rw [run_cons]
      exact (entries_prefix_step h.1).trans (ih h.2 (s.step op))

end Session

/-! ## The panel -/

namespace View

/-- The rows of the panel are those of each entry under its number, one entry after another. -/
theorem numberedEntries_eq (number : Nat) (entries : List HistoryEntry) :
    numberedEntries number entries =
      (entries.zipIdx number).flatMap fun (entry, n) => historyEntryLines n entry := by
  induction entries generalizing number with
  | nil => rfl
  | cons entry rest ih => rw [numberedEntries, ih, List.zipIdx_cons, List.flatMap_cons]

/-- Where a rendering writes the title of the panel, it ends with the panel of the log. -/
theorem historyPanel_suffix_of_title {view : View} {state : SessionState} {history : History}
    (h : panelTitle ∈ view.transitionLines state history) :
    historyPanel history <:+ view.transitionLines state history := by
  simp only [transitionLines, List.mem_append, panelTitle] at h
  rcases h with (((h | h) | h) | h) | h
  · unfold directionLines at h
    split at h
    · simp [inputLine] at h
    · split at h
      · split at h <;> simp [inputLine] at h
      · simp at h
  · simp [startLines] at h
  -- The header of a result is another one.
  · unfold outcomeLines at h
    split at h
    · cases hout : state.outcome <;> simp [hout, resultLines, Line.empty] at h
    · simp at h
  · unfold clearedLines at h
    split at h <;> simp at h
  · have hpanel : view.panelLines state history = historyPanel history := by
      unfold panelLines at h ⊢
      split at h
      · split at h
        · rename_i hvisible hchanged
          rw [if_pos hvisible, if_pos hchanged]
        · simp at h
      · split at h <;> simp at h
    rw [transitionLines, hpanel]
    exact List.suffix_append _ _

end View

namespace Repl

/-! ## What a move shows -/

/-- Whatever shows a history panel shows the one of a log, and behind everything else. -/
def ShowsPanelOf (history : History) (outputs : List Output) : Prop :=
  ∀ emission, Output.screen emission ∈ outputs → View.panelTitle ∈ emission.lines →
    View.historyPanel history <:+ emission.lines

section Panel

variable {history : History}

theorem ShowsPanelOf.append {first others : List Output} (hfirst : ShowsPanelOf history first)
    (hothers : ShowsPanelOf history others) : ShowsPanelOf history (first ++ others) := by
  intro emission h
  rcases List.mem_append.1 h with h | h
  · exact hfirst emission h
  · exact hothers emission h

/-- Rows show the panel of the log if they end with it wherever they have its title. -/
theorem showsPanelOf_emit {view : View} {lines : List Line}
    (h : View.panelTitle ∈ lines → View.historyPanel history <:+ lines) :
    ShowsPanelOf history ((view.emit lines).map .screen) := by
  intro emission hmem htitle
  obtain ⟨shown, hshown, heq⟩ := List.mem_map.1 hmem
  cases Output.screen.inj heq
  unfold View.emit at hshown
  split at hshown
  · exact absurd hshown List.not_mem_nil
  · cases List.mem_singleton.1 hshown
    exact h htitle

theorem showsPanelOf_row {view : View} {row : Line} (h : View.panelTitle ≠ row) :
    ShowsPanelOf history ((view.emit [row]).map .screen) :=
  showsPanelOf_emit fun htitle => absurd (List.mem_singleton.1 htitle) h

/-- Calls that render one log show no panel but that of this log. -/
theorem showsPanelOf_respondAll {calls : List ViewCall}
    (h : ∀ state log, ViewCall.render state log ∈ calls → log = history) (view : View) :
    ShowsPanelOf history ((view.respondAll calls).2.map .screen) := by
  induction calls generalizing view with
  | nil => exact fun _ hmem => absurd hmem List.not_mem_nil
  | cons call rest ih =>
      rw [Console.respondAll_cons, List.map_append]
      refine ShowsPanelOf.append ?_ (ih (fun state log hmem => h state log (.tail _ hmem)) _)
      cases call with
      | render state log =>
          cases h state log (.head _)
          exact showsPanelOf_emit View.historyPanel_suffix_of_title
      | copyResult text =>
          change ShowsPanelOf history ((view.emit [Line.plain text]).map .screen)
          exact showsPanelOf_row (by simp [View.panelTitle, Line.plain])
      | notice message =>
          change ShowsPanelOf history
            ((view.emit [[Style.warning.paint "!", .plain " ", .plain message]]).map .screen)
          exact showsPanelOf_row (by simp [View.panelTitle])
      | entryLoaded entry => exact fun _ hmem => absurd hmem List.not_mem_nil

/-- An intent renders the log that it leaves. -/
theorem history_of_render_mem_apply {s : Session} {intent : Intent} {state : SessionState}
    {log : History} (h : ViewCall.render state log ∈ (intent.apply s).2) :
    log = (intent.apply s).1.history := by
  have hone {after : Session} (h : ViewCall.render state log ∈ [ViewCall.ofSession after]) :
      log = after.history := (ViewCall.render.inj (List.mem_singleton.1 h)).2
  cases intent with
  | selectEntry index =>
      rw [Intent.apply] at h ⊢
      cases hentry : s.history.get? index with
      | none => simp [hentry] at h
      | some entry =>
          simp only [hentry] at h ⊢
          rcases List.mem_cons.1 h with h | h
          · cases h
          · exact hone h
  | copyResult =>
      rw [Intent.apply] at h
      cases hout : s.state.outcome <;> simp [hout] at h
  | submit => exact hone h
  | switchDirection d => exact hone h
  | editInput d text => exact hone h
  | toggleHistory => exact hone h
  | clearHistory => exact hone h

theorem showsPanelOf_apply (repl : Repl) (intent : Intent) :
    ShowsPanelOf (repl.apply intent).1.session.history (repl.apply intent).2 :=
  showsPanelOf_respondAll (fun _ _ => history_of_render_mem_apply) repl.console.view

theorem showsPanelOf_submit (repl : Repl) :
    ShowsPanelOf repl.submit.1.session.history repl.submit.2 := by
  rw [submit]
  split
  · exact showsPanelOf_apply repl .submit
  · exact showsPanelOf_row (by simp [View.panelTitle])

/-- What a command prints besides is no panel, and most of it is not on the screen of the view. -/
theorem showsPanelOf_remark (repl : Repl) (history : History) (command : Command) :
    ShowsPanelOf history (repl.remark command) := by
  cases command with
  | submit => exact showsPanelOf_row (by simp [View.panelTitle])
  | _ => simp [remark, ShowsPanelOf]

theorem showsPanelOf_handleCommand (repl : Repl) (command : Command) :
    ShowsPanelOf (repl.handleCommand command).2.1.session.history
      (repl.handleCommand command).2.2 := by
  rw [handleCommand_eq]
  cases repl.gesture? command with
  | none => exact showsPanelOf_remark repl _ command
  | some intent => exact showsPanelOf_apply repl intent

/-- Every panel that a move shows is the panel of the log as the move leaves it. -/
theorem showsPanelOf_move (repl : Repl) (m : Move) :
    ShowsPanelOf (repl.move m).1.session.history (repl.move m).2 := by
  have hrender (repl : Repl) : ShowsPanelOf repl.session.history repl.render.2 :=
    showsPanelOf_emit View.historyPanel_suffix_of_title
  cases m with
  | line text =>
      rw [move, handleLine]
      cases Input.parse text with
      | empty => simp [handleInput, ShowsPanelOf]
      | text query =>
          let edited := (repl.apply (.editInput repl.state.direction query)).1
          -- Submitting does not touch the log, so both renderings show the same one.
          have hlog : edited.submit.1.session.history = edited.session.history := by
            rw [session_submit, Session.history_step_submit]
          have hfirst := showsPanelOf_apply repl (.editInput repl.state.direction query)
          have hothers := showsPanelOf_submit edited
          rw [hlog] at hothers
          have hboth := hfirst.append hothers
          rw [← hlog] at hboth
          exact hboth
      | command command => exact showsPanelOf_handleCommand repl command
  | poll => simp [move, ShowsPanelOf]
  | reply arrival =>
      rw [move]
      cases hp : repl.session.pending? arrival.direction with
      | none =>
          rw [receive_of_none hp]
          simp [ShowsPanelOf]
      | some request =>
          rw [receive_of_pending hp]
          exact hrender _
  | render => exact hrender repl
  | prompt message => simp [move, ShowsPanelOf]

end Panel

/-! ## Numbers that have been shown -/

/-- Whether a move is a line that clears the log. -/
def Move.clearsLog : Move → Bool
  | .line text => Input.parse text = .command .clear
  | .poll | .reply _ | .render | .prompt _ => false

/-- Only one command clears the log. -/
theorem ne_clearHistory_of_mem_inputOps {s : Session} {input : Input} {op : Session.Op}
    (h : input ≠ .command .clear) (hop : op ∈ inputOps s input) : op ≠ .clearHistory := by
  rintro rfl
  cases input with
  | empty => simp [inputOps] at hop
  | text query => simp [inputOps] at hop
  | command command =>
      cases command with
      | clear => exact h rfl
      | load number => cases number <;> simp [inputOps, commandOps] at hop
      | _ => simp [inputOps, commandOps] at hop

theorem entries_prefix_move {repl : Repl} {m : Move} (h : m.clearsLog = false) :
    repl.session.history.entries <+: (repl.move m).1.session.history.entries := by
  rw [session_move]
  refine Session.entries_prefix_run (fun op hop => ?_) _
  cases m with
  | line text => exact ne_clearHistory_of_mem_inputOps (of_decide_eq_false h) hop
  | poll =>
      cases List.mem_singleton.1 hop
      exact Session.Op.noConfusion
  | reply arrival =>
      cases List.mem_singleton.1 hop
      exact Session.Op.noConfusion
  | render => exact absurd hop List.not_mem_nil
  | prompt message => exact absurd hop List.not_mem_nil

/-- Over every course without a clearing, entries are only added behind those that are there. -/
theorem entries_prefix_play {moves : List Move} (h : ∀ m ∈ moves, m.clearsLog = false)
    (repl : Repl) :
    repl.session.history.entries <+: (repl.play moves).session.history.entries := by
  induction moves generalizing repl with
  | nil => exact List.prefix_refl _
  | cons m moves ih =>
      rw [List.forall_mem_cons] at h
      rw [play_cons]
      exact (entries_prefix_move h.1).trans (ih h.2 _)

/-- An entry is restored in a session, and nothing else is touched. -/
structure Restores (before : Session) (entry : HistoryEntry) (after : Session) : Prop where
  direction : after.state.direction = entry.direction
  input : after.state.input entry.direction = entry.input
  otherInput : ∀ d, d ≠ entry.direction → after.state.input d = before.state.input d
  outcome : after.state.outcome = some (.success entry.output)
  panelClosed : after.state.historyVisible = false
  busy : after.state.busy = before.state.busy
  log : after.history = before.history
  inFlight : after.inFlight = before.inFlight
  unsent : after.unsent = before.unsent
  calls : after.calls = before.calls

theorem restores_load (s : Session) (entry : HistoryEntry) : Restores s entry (s.load entry) where
  direction := rfl
  input := PerDirection.get_set_self _ _ _
  otherInput := fun _ hd => (PerDirection.get_set _ _ _ _).trans (if_neg hd)
  outcome := rfl
  panelClosed := rfl
  busy := rfl
  log := rfl
  inFlight := rfl
  unsent := rfl
  calls := rfl

section Load

variable {repl : Repl} {line : String} {n : Nat}

/-- A line that loads a number selects the entry at the index one below. -/
theorem handleLine_load (hp : Input.parse line = .command (.load (some n))) :
    repl.handleLine line = (true, repl.apply (.selectEntry (n - 1))) := by
  rw [handleLine, hp]
  rfl

theorem session_handleLine_load {entry : HistoryEntry}
    (hp : Input.parse line = .command (.load (some n)))
    (hentry : repl.session.history.get? (n - 1) = some entry) :
    (repl.handleLine line).2.1.session = repl.session.load entry := by
  rw [session_handleLine, hp, inputOps, commandOps, hentry]
  rfl

/-- The remark counts from one again, so it names the number that was typed. -/
theorem missingEntryNotice_pred (hpos : 0 < n) :
    missingEntryNotice (n - 1) = "No history entry #" ++ String.ofList (Text.decimal n) := by
  have hback : n - 1 + 1 = n := Nat.sub_add_cancel hpos
  unfold missingEntryNotice
  rw [hback]

/-- Selecting an entry that is not there changes nothing and says so. -/
theorem apply_selectEntry_of_none {index : Nat} (h : repl.session.history.get? index = none) :
    repl.apply (.selectEntry index) = (repl,
      [.screen ⟨[[Style.warning.paint "!", .plain " ", .plain (missingEntryNotice index)]],
        repl.console.view.prompt⟩]) := by
  rw [session] at h
  rw [apply, Console.dispatch, Intent.apply, h]
  rfl

/-- A number that no entry has is named in the remark about it. -/
theorem handleLine_load_of_missing (hp : Input.parse line = .command (.load (some n)))
    (hpos : 0 < n) (hmissing : repl.session.history.length < n) :
    repl.handleLine line = (true, repl,
      [.screen ⟨[[Style.warning.paint "!", .plain " ",
        .plain ("No history entry #" ++ String.ofList (Text.decimal n))]],
        repl.console.view.prompt⟩]) := by
  have hnone : repl.session.history.get? (n - 1) = none := by
    rw [History.get?, List.getElem?_eq_none_iff]
    have hlength : repl.session.history.entries.length < n := hmissing
    omega
  rw [handleLine_load hp, apply_selectEntry_of_none hnone, missingEntryNotice_pred hpos]

/-- A load without a number that counts changes nothing and shows how to write it. -/
theorem handleLine_load_none (hp : Input.parse line = .command (.load none)) :
    repl.handleLine line = (true, repl, [.err (Screen.error "Usage: /load <n>")]) := by
  rw [handleLine, hp]
  rfl

end Load

end Repl

/-- A number that a user types for an entry is positive and fits in 64 bits. -/
theorem typed_number_fits {line : String} {n : Nat}
    (h : Input.parse line = .command (.load (some n))) : 0 < n ∧ n ≤ Text.maxWord := by
  obtain ⟨behind, -, hmeans⟩ := Input.parse_eq_command_iff.1 h
  exact (Command.means_load_iff.1 hmeans).elim fun _ hrest => hrest.2.2.2

/-- Between one and the largest word, counting from zero and back does not wrap. -/
theorem word_steps {n : Nat} (hpos : 0 < n) (hword : n ≤ Text.maxWord) :
    (UInt64.ofNat n).toNat = n ∧ (UInt64.ofNat n - 1).toNat = n - 1 ∧
      (UInt64.ofNat n - 1 + 1).toNat = n := by
  have hmax : Text.maxWord = 2 ^ 64 - 1 := by decide
  have hn : (UInt64.ofNat n).toNat = n := by
    rw [UInt64.toNat_ofNat']
    omega
  have hone : (1 : UInt64) ≤ UInt64.ofNat n := by
    rw [UInt64.le_iff_toNat_le, hn]
    exact hpos
  refine ⟨hn, ?_, ?_⟩
  · rw [UInt64.toNat_sub_of_le _ _ hone, hn]
    rfl
  · rw [UInt64.sub_add_cancel, hn]

namespace Repl

/-- The history panel shows each entry of the log once, in the order of the log and under its number
counted from one: a row with the digits of the number, the label of the direction and the time, and
a row with a preview of the input. The digits are a way to type the number. Every panel that is
shown is that of the log of the moment.

A number that has been shown restores its entry and touches nothing else, however it is typed and
whatever lines and replies come in between, unless one of the lines clears the log.

Any other argument leaves everything as it was. If it is a positive number of 64 bits, the remark
names this number.

A number that is typed fits in 64 bits, and so do the steps to the index of the entry and back. -/
theorem shown_number_loads_entry (repl : Repl) :
    (repl.session.history.entries ≠ [] →
      View.historyPanel repl.session.history =
        [Style.header.paint "Translation History"] ::
          (repl.session.history.entries.zipIdx 1).flatMap (fun (entry, n) =>
            [[.plain ("  " ++ String.ofList (List.replicate (3 - (Text.decimal n).length) ' ' ++
                Text.decimal n) ++ ". "),
              Style.code.paint entry.direction.historyLabel, .plain "  ",
              Style.secondary.paint (Calendar.format entry.createdAt)],
              [.plain "       ", .plain (String.ofList (View.preview entry.input.toList))]]) ++
          [[Style.hint.paint "  /load <n> restores an entry, /clear clears the history"],
            Line.empty]) ∧
    (∀ n, Text.Spells (Text.decimal n) n) ∧
    (∀ m : Move, ShowsPanelOf (repl.move m).1.session.history (repl.move m).2) ∧
    (∀ entry n, (entry, n) ∈ repl.session.history.entries.zipIdx 1 → n ≤ Text.maxWord →
      ∀ moves : List Move, (∀ m ∈ moves, m.clearsLog = false) →
      ∀ line argument, LoadLine line argument → Text.Spells argument n →
        let later := repl.play moves
        (later.handleLine line).1 = true ∧
        Restores later.session entry (later.handleLine line).2.1.session) ∧
    (∀ line argument, LoadLine line argument →
      (∀ n, Text.Spells argument n → 0 < n → n ≤ Text.maxWord → repl.session.history.length < n) →
        (repl.handleLine line).1 = true ∧ (repl.handleLine line).2.1 = repl ∧
        (∀ n, Text.Spells argument n → 0 < n → n ≤ Text.maxWord →
          (repl.handleLine line).2.2 = [.screen ⟨[[Style.warning.paint "!", .plain " ",
            .plain ("No history entry #" ++ String.ofList (Text.decimal n))]],
            repl.console.view.prompt⟩]) ∧
        ((∀ n, Text.Spells argument n → 0 < n → Text.maxWord < n) →
          (repl.handleLine line).2.2 = [.err (Screen.error "Usage: /load <n>")])) ∧
    ∀ line n, Input.parse line = .command (.load (some n)) →
      (UInt64.ofNat n).toNat = n ∧ (UInt64.ofNat n - 1).toNat = n - 1 ∧
      (UInt64.ofNat n - 1 + 1).toNat = n := by
  refine ⟨?_, Text.spells_decimal, showsPanelOf_move repl, ?_, ?_, ?_⟩
  · intro hne
    have hfull : repl.session.history.isEmpty = false := List.isEmpty_eq_false_iff.2 hne
    rw [View.historyPanel, hfull, View.numberedEntries_eq, if_neg Bool.false_ne_true]
    exact congrArg (List.cons _) (List.append_assoc _ _ _)
  · intro entry n hshown hword moves hkeeps line argument hline hspells later
    obtain ⟨hpos, hentry⟩ := List.mk_mem_zipIdx_iff_le_and_getElem?_sub.1 hshown
    have hp : Input.parse line = .command (.load (some n)) := by
      rw [hline.parse, entryNumber?_eq_some_iff.2 ⟨hspells, hpos, hword⟩]
    -- Entries are only added behind the one that the number was shown for.
    obtain ⟨added, hadded⟩ := entries_prefix_play hkeeps repl
    have hstill : later.session.history.get? (n - 1) = some entry := by
      have hbound := (List.getElem?_eq_some_iff.1 hentry).1
      rw [History.get?, ← hadded, List.getElem?_append_left hbound, hentry]
    rw [session_handleLine_load hp hstill, handleLine_load hp]
    exact ⟨rfl, restores_load _ _⟩
  · intro line argument hline hmissing
    cases hnumber : entryNumber? argument with
    | none =>
        have hp : Input.parse line = .command (.load none) := by rw [hline.parse, hnumber]
        rw [handleLine_load_none hp]
        refine ⟨rfl, rfl, ?_, fun _ => rfl⟩
        intro n hspells hpos hword
        rw [entryNumber?_eq_some_iff.2 ⟨hspells, hpos, hword⟩] at hnumber
        cases hnumber
    | some n =>
        have hp : Input.parse line = .command (.load (some n)) := by rw [hline.parse, hnumber]
        obtain ⟨hspells, hpos, hword⟩ := entryNumber?_eq_some_iff.1 hnumber
        rw [handleLine_load_of_missing hp hpos (hmissing n hspells hpos hword)]
        refine ⟨rfl, rfl, ?_, ?_⟩
        · intro m hm _ _
          rw [hm.unique hspells]
        · intro hnone
          exact absurd (hnone n hspells hpos) (Nat.not_lt.2 hword)
  · intro line n hp
    obtain ⟨hpos, hword⟩ := typed_number_fits hp
    exact word_steps hpos hword

/-- A session with one attempt of either direction in its log, whose panel is open. -/
def twoShown : Repl :=
  (new ⟨"http://localhost:5000", 30000, .sqlToMongo⟩).play
    [.render, .line "SELECT 1", .reply ⟨.sqlToMongo, .success "db.a.find()", 5⟩, .line "/mongo",
      .line "db.t.find()", .reply ⟨.mongoToSql, .failure "no answer", 7⟩, .line "/history"]

/-- The second number is shown, one more reply arrives, and the number is loaded. Behind the end of
the log there is no entry. -/
theorem twoShown_loads_second :
    let later := twoShown.play [.line "/sql", .line "SELECT 2",
      .reply ⟨.sqlToMongo, .success "db.b.find()", 9⟩]
    (later.handleLine " /load \t+02 ").2.1.state.input .mongoToSql = "db.t.find()" ∧
    (later.handleLine " /load \t+02 ").2.1.state.outcome = some (.success "no answer") ∧
    (twoShown.handleLine "/load 3").2.1 = twoShown ∧
    (UInt64.ofNat 2 - 1).toNat = 1 := by
  intro later
  have hline : LoadLine " /load \t+02 " ['+', '0', '2'] :=
    ⟨[' '], [' ', '\t'], [' '], by decide, by decide, by decide, by decide, by decide, by decide⟩
  have hspells : Text.Spells ['+', '0', '2'] 2 :=
    ⟨['0', '2'], .inr rfl, by decide, by decide, by decide⟩
  have hbeyond : LoadLine "/load 3" ['3'] :=
    ⟨[], [' '], [], by decide, by decide, by decide, by decide, by decide, by decide⟩
  have hthree : Text.Spells ['3'] 3 := ⟨['3'], .inl rfl, by decide, by decide, by decide⟩
  obtain ⟨-, -, -, hloads, hmissing, hwords⟩ := shown_number_loads_entry twoShown
  obtain ⟨-, hrestores⟩ := hloads ⟨.mongoToSql, "db.t.find()", "no answer", 7⟩ 2 (by decide)
    (by decide) [.line "/sql", .line "SELECT 2", .reply ⟨.sqlToMongo, .success "db.b.find()", 9⟩]
    (by decide) " /load \t+02 " _ hline hspells
  have hnone := hmissing "/load 3" _ hbeyond fun n hn _ _ => by
    rw [hn.unique hthree]
    decide
  exact ⟨hrestores.input, hrestores.outcome, hnone.2.1,
    (hwords " /load \t+02 " 2 (by decide)).2.1⟩

end Repl

end QueryBridge
