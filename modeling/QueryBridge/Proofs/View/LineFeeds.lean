import QueryBridge.Proofs.View.Batches
import QueryBridge.Proofs.View.Characters

/-!
# Every row is one row of the terminal, and results lose no text

A view splits results into lines and cuts inputs to a preview, so no row of a rendering has a line
feed (`allLack_feed`), whatever line feeds and carriage returns the texts have. What a rendering
writes has then one line feed for each row, and under a prompt a carriage return in front of each.
The rows between the header of a result and the empty row behind it are the lines of the outcome,
and joined they are its text (`eq_of_split_at_result`, `intercalate_unindented`); no other row is
like the header.
-/

set_option autoImplicit false

namespace QueryBridge

open Line Text

/-! ## Rendered rows -/

section Rendered

variable {color : Bool} {line : Line} {rows : List Line}

theorem feed_not_mem_graphicRendition (code : Nat) : '\n' ∉ graphicRendition code := by
  have hdigits : '\n' ∉ decimal code := (printable_decimal code).not_mem (by decide)
  simp [graphicRendition, hdigits]

/-- Control sequences have no line feeds, so a rendered span has those of its text. -/
theorem Span.feed_not_mem_render {span : Span} (h : '\n' ∉ span.text.toList) :
    '\n' ∉ span.render color := by
  have hcodes (codes : List Nat) : '\n' ∉ codes.flatMap graphicRendition := by
    intro hin
    obtain ⟨code, -, hcode⟩ := List.mem_flatMap.1 hin
    exact feed_not_mem_graphicRendition code hcode
  unfold render
  split
  · simp only [List.mem_append, not_or]
    exact ⟨⟨hcodes _, h⟩, hcodes _⟩
  · exact h

theorem Line.feed_not_mem_render (h : line.Lacks '\n') : '\n' ∉ render color line := by
  intro hin
  obtain ⟨span, hspan, hfeed⟩ := List.mem_flatMap.1 hin
  exact Span.feed_not_mem_render (h span hspan) hfeed

/-- One line feed is written for each row. -/
theorem count_feed_rows {ending : List Char} (hending : ending.count '\n' = 1)
    (h : AllLack '\n' rows) :
    (rows.flatMap fun row => render color row ++ ending).count '\n' = rows.length := by
  induction rows with
  | nil => rfl
  | cons row rows ih =>
      obtain ⟨hrow, hrows⟩ := allLack_cons.1 h
      have hnone : (render color row).count '\n' = 0 :=
        List.count_eq_zero.2 (feed_not_mem_render hrow)
      rw [List.flatMap_cons, List.count_append, List.count_append, hnone, hending, ih hrows,
        List.length_cons]
      omega

end Rendered

/-! ## Carriage returns in front of line feeds -/

namespace Text

/-- Right before every line feed of a text stands a carriage return. -/
def Returned (s : List Char) : Prop :=
  ∀ before after, s = before ++ '\n' :: after → before.getLast? = some '\r'

variable {s t : List Char}

theorem Returned.of_not_mem (h : '\n' ∉ s) : Returned s := by
  rintro before after rfl
  exact absurd (by simp) h

/-- Two texts in which every line feed has its carriage return can be joined. -/
theorem Returned.append (hs : Returned s) (ht : Returned t) : Returned (s ++ t) := by
  intro before after hsplit
  rcases List.append_eq_append_iff.1 hsplit with ⟨front, rfl, hback⟩ | ⟨back, hfront, hback⟩
  · -- The line feed is in the second text, and not the first character of it.
    have hlast := ht front after hback
    rw [List.getLast?_append, hlast, Option.some_or]
  · cases back with
    | nil =>
        have hlast := ht [] after hback.symm
        cases hlast
    | cons c back =>
        cases hback
        exact hs before back hfront

theorem returned_return_feed : Returned ['\r', '\n'] := by
  intro before after hsplit
  cases before with
  | nil => cases hsplit
  | cons c before =>
      cases before with
      | nil =>
          cases hsplit
          rfl
      | cons d before => simp at hsplit

end Text

/-- Rows without line feeds that end with a carriage return and a line feed have no other ones. -/
theorem returned_rows {color : Bool} {rows : List Line} (h : AllLack '\n' rows) :
    Returned (rows.flatMap fun row => render color row ++ ['\r', '\n']) := by
  induction rows with
  | nil => exact .of_not_mem List.not_mem_nil
  | cons row rows ih =>
      obtain ⟨hrow, hrows⟩ := allLack_cons.1 h
      have hfirst : Returned (render color row) := .of_not_mem (feed_not_mem_render hrow)
      exact (hfirst.append returned_return_feed).append (ih hrows)

namespace View

/-! ## Rows without line feeds -/

/-- A preview is one row. -/
theorem feed_not_mem_previewOf (text : String) : '\n' ∉ (previewOf text).toList := by
  rw [previewOf, String.toList_ofList]
  intro hin
  rcases mem_preview hin with ⟨row, hrow, hfeed⟩ | hmark
  · exact feed_not_mem_of_mem_lines hrow hfeed
  · exact absurd hmark (by decide)

/-- No row has a line feed, whatever the texts are. -/
theorem allLack_feed (view : View) (state : SessionState) (history : History) :
    AllLack '\n' (view.transitionLines state history) := by
  refine allLack_transitionLines (show '\n'.toNat < 32 by decide) ?_ ?_ ?_
  · exact feed_not_mem_previewOf state.activeInput
  · exact fun outcome _ row hrow => feed_not_mem_of_mem_lines hrow
  · exact fun entry _ => feed_not_mem_previewOf entry.input

/-- What a view writes when it is asked to render. -/
def written (color : Bool) (view : View) (state : SessionState) (history : History) : List Char :=
  (view.respond (.render state history)).2.flatMap (Emission.render color)

section Written

variable {color : Bool} {view : View} {state : SessionState} {history : History} {message : String}

theorem written_of_nil (h : view.transitionLines state history = []) :
    view.written color state history = [] := by
  rw [written, respond, h]
  rfl

theorem written_of_ne_nil (h : view.transitionLines state history ≠ []) :
    view.written color state history =
      Emission.render color ⟨view.transitionLines state history, view.prompt⟩ := by
  rw [written, respond, emit, if_neg (by simpa using h), List.flatMap_singleton]

theorem written_plain (hprompt : view.prompt = none) :
    view.written color state history =
      (view.transitionLines state history).flatMap fun row => Line.render color row ++ ['\n'] := by
  by_cases hrows : view.transitionLines state history = []
  · rw [written_of_nil hrows, hrows]
    rfl
  · rw [written_of_ne_nil hrows, hprompt]
    rfl

/-- Under a prompt, rows come with carriage returns between the sequence that clears it and its
copy. -/
theorem written_prompted (hprompt : view.prompt = some message)
    (hrows : view.transitionLines state history ≠ []) :
    view.written color state history =
      Emission.clearPrompt ++ (view.transitionLines state history).flatMap
        (fun row => Line.render color row ++ ['\r', '\n']) ++
      Line.render color (Emission.promptLine message) := by
  rw [written_of_ne_nil hrows, hprompt]
  rfl

theorem feed_not_mem_promptLine (h : '\n' ∉ message.toList) :
    '\n' ∉ Line.render color (Emission.promptLine message) := by
  refine Line.feed_not_mem_render ?_
  simp [Emission.promptLine, h]

theorem returned_written (hprompt : view.prompt = some message) (hmessage : '\n' ∉ message.toList) :
    Returned (view.written color state history) := by
  by_cases hrows : view.transitionLines state history = []
  · rw [written_of_nil hrows]
    exact .of_not_mem List.not_mem_nil
  · rw [written_prompted hprompt hrows]
    have hclear : Returned Emission.clearPrompt := .of_not_mem (by decide)
    exact (hclear.append (returned_rows (allLack_feed view state history))).append
      (.of_not_mem (feed_not_mem_promptLine hmessage))

theorem count_feed_written (hprompt : ∀ message ∈ view.prompt, '\n' ∉ message.toList) :
    (view.written color state history).count '\n' =
      (view.transitionLines state history).length := by
  have hfree := allLack_feed view state history
  cases hshown : view.prompt with
  | none =>
      rw [written_plain hshown]
      exact count_feed_rows rfl hfree
  | some message =>
      by_cases hrows : view.transitionLines state history = []
      · rw [written_of_nil hrows, hrows]
        rfl
      · -- The copy of the prompt and the sequence in front of the rows add none.
        have hcopy : (Line.render color (Emission.promptLine message)).count '\n' = 0 :=
          List.count_eq_zero.2 (feed_not_mem_promptLine (hprompt message hshown))
        have hclear : Emission.clearPrompt.count '\n' = 0 := rfl
        rw [written_prompted hshown hrows, List.count_append, List.count_append, hclear, hcopy,
          count_feed_rows rfl hfree]
        omega

end Written

/-! ## Results -/

/-- The row that shows a line of an outcome: two blanks, then the line in the style of a failure or
of a value. -/
def resultRow (outcome : Outcome) (text : String) : Line :=
  [.plain "  ", (if outcome.isFailure then Style.error else Style.value).paint text]

/-- The text of a row without its styles and without the two characters of its indent. -/
def unindented (row : Line) : List Char :=
  (Line.render false row).drop 2

theorem resultLines_eq (outcome : Outcome) :
    resultLines outcome = Heading.result.row ::
      ((linesOf outcome.text).map (resultRow outcome) ++ [Line.empty]) :=
  rfl

/-- Joining the rows of an outcome without their indents gives its text. -/
theorem intercalate_unindented (outcome : Outcome) :
    List.intercalate ['\n'] (((linesOf outcome.text).map (resultRow outcome)).map unindented) =
      dropFinalFeed (unifyEnds outcome.text.toList) := by
  have hrow (chars : List Char) : unindented (resultRow outcome (String.ofList chars)) = chars := by
    simp [unindented, resultRow, Line.render, Span.render, Span.plain, Style.paint]
  rw [← intercalate_lines, linesOf, List.map_map, List.map_map]
  exact congrArg _ ((List.map_congr_left fun chars _ => hrow chars).trans (List.map_id _))

/-- The rows in front of a result have no header of one. -/
theorem result_row_not_mem_front (view : View) (state : SessionState) :
    Heading.result.row ∉ view.directionLines state ++ view.startLines state := by
  rw [List.mem_append, not_or]
  constructor
  -- Each of these rows has another heading, or opens with an indent.
  · rw [directionLines]
    split
    · simp [Heading.row, inputLine]
    · split
      · split <;> simp [Heading.row, inputLine]
      · exact List.not_mem_nil
  · intro hin
    obtain ⟨d, -, hrow⟩ := List.mem_map.1 hin
    cases d <;> simp [Heading.row] at hrow

/-- Nor have those behind it. -/
theorem result_row_not_mem_back (view : View) (state : SessionState) (history : History) :
    Heading.result.row ∉ view.clearedLines history ++ view.panelLines state history := by
  have hpanel : Heading.result.row ∉ historyPanel history := by
    rw [← Heading.row_mem_headings, headings_historyPanel, List.mem_map]
    rintro ⟨heading, hheading, hrow⟩
    rw [Heading.row_inj.1 hrow, panelHeadings] at hheading
    split at hheading <;> simp at hheading
  rw [List.mem_append, not_or]
  constructor
  · rw [clearedLines]
    split <;> simp [Heading.row]
  · rw [panelLines]
    split
    · split
      · exact hpanel
      · exact List.not_mem_nil
    · split <;> simp [Heading.row]

/-- Nor have the lines of the outcome, which are indented. -/
theorem result_row_not_mem_body (outcome : Outcome) :
    Heading.result.row ∉ (linesOf outcome.text).map (resultRow outcome) := by
  intro hin
  obtain ⟨text, -, hrow⟩ := List.mem_map.1 hin
  simp [Heading.row, resultRow] at hrow

/-- The rows for a new result are those of the outcome of the state. -/
theorem exists_outcome_of_ne_nil {view : View} {state : SessionState} {history : History}
    (h : view.outcomeLines state history ≠ []) :
    ∃ outcome, state.outcome = some outcome ∧
      view.outcomeLines state history = resultLines outcome := by
  rw [outcomeLines] at h ⊢
  split
  · cases hstate : state.outcome with
    | none => simp [hstate] at h
    | some outcome => exact ⟨outcome, rfl, rfl⟩
  · rename_i hold
    exact absurd (if_neg hold) h

/-- Wherever the header of a result stands among the rows of a rendering, the outcome of the state
follows line by line, and an empty row behind it. -/
theorem eq_of_split_at_result {view : View} {state : SessionState} {history : History}
    {before rest : List Line}
    (hsplit : view.transitionLines state history = before ++ Heading.result.row :: rest) :
    ∃ outcome, state.outcome = some outcome ∧
      rest = (linesOf outcome.text).map (resultRow outcome) ++
        Line.empty :: (view.clearedLines history ++ view.panelLines state history) := by
  have hfront := result_row_not_mem_front view state
  have hback := result_row_not_mem_back view state history
  have hparts : view.transitionLines state history =
      (view.directionLines state ++ view.startLines state) ++
        (view.outcomeLines state history ++
          (view.clearedLines history ++ view.panelLines state history)) := by
    simp only [transitionLines, List.append_assoc]
  have hin : Heading.result.row ∈ view.transitionLines state history := by
    rw [hsplit]
    exact List.mem_append_right before List.mem_cons_self
  have hnew : view.outcomeLines state history ≠ [] := by
    intro hnone
    rw [hparts, hnone, List.nil_append] at hin
    exact (List.mem_append.1 hin).elim hfront hback
  obtain ⟨outcome, houtcome, hlines⟩ := exists_outcome_of_ne_nil hnew
  refine ⟨outcome, houtcome, ?_⟩
  have htail : Heading.result.row ∉
      ((linesOf outcome.text).map (resultRow outcome) ++ [Line.empty]) ++
      (view.clearedLines history ++ view.panelLines state history) := by
    have hempty : Heading.result.row ∉ [Line.empty] := by simp [Heading.row, Line.empty]
    simp only [List.mem_append, not_or] at hback ⊢
    exact ⟨⟨result_row_not_mem_body outcome, hempty⟩, hback⟩
  -- The header stands once among the rows, so every split at it is this one.
  rw [hparts, hlines, resultLines_eq, List.cons_append] at hsplit
  have hsame := (List.append_cons_inj_of_notMem hfront htail).1 hsplit
  rw [← hsame.2.2, List.append_assoc]
  rfl

/-! ## What a rendering writes -/

/-- Rows that show an outcome: each is indented, and joined they are the text of the outcome, with
line feeds for the ends of its lines and without one at its end. -/
structure IsBodyOf (outcome : Outcome) (body : List Line) : Prop where
  indented : ∀ row ∈ body, ∃ text, row =
    [.plain "  ", (if outcome.isFailure then Style.error else Style.value).paint text]
  joined : List.intercalate ['\n'] (body.map unindented) =
    dropFinalFeed (unifyEnds outcome.text.toList)

/-- What a rendering writes, for a view with any memory and under any prompt. -/
structure WritesRows (color : Bool) (view : View) (state : SessionState)
    (history : History) : Prop where
  /-- No row has a line feed. -/
  single : ∀ row ∈ view.transitionLines state history, '\n' ∉ Line.render color row
  /-- Where there are no rows, nothing is written. -/
  silent : view.transitionLines state history = [] → view.written color state history = []
  /-- Without a prompt, a line feed ends every row. -/
  plain : view.prompt = none → view.written color state history =
    (view.transitionLines state history).flatMap fun row => Line.render color row ++ ['\n']
  /-- Under a prompt, it is cleared, the rows come with carriage returns, and one copy of the prompt
  is left behind: the mark, a blank, the message and a blank. -/
  prompted : ∀ message, view.prompt = some message → view.transitionLines state history ≠ [] →
    view.written color state history =
      ['\r', '\x1b', '[', 'J'] ++ (view.transitionLines state history).flatMap
        (fun row => Line.render color row ++ ['\r', '\n']) ++
      Line.render color [Style.command.paint "❯", .plain " ", .plain message, .plain " "]
  /-- Under a prompt, a carriage return stands right before every line feed. -/
  returned : ∀ message, view.prompt = some message → '\n' ∉ message.toList →
    Returned (view.written color state history)
  /-- There are as many line feeds as rows. -/
  counted : (∀ message ∈ view.prompt, '\n' ∉ message.toList) →
    (view.written color state history).count '\n' = (view.transitionLines state history).length
  /-- Between the header of a result and the next empty row stands the outcome of the state. -/
  results : ∀ before rest,
    view.transitionLines state history = before ++ [Style.header.paint "Result:"] :: rest →
    ∃ outcome body after, state.outcome = some outcome ∧ rest = body ++ Line.empty :: after ∧
      Line.empty ∉ body ∧ IsBodyOf outcome body

/-- Every row of a rendering is one row of the terminal, and results lose no text, whatever line
feeds and carriage returns are in the texts of the state and the history. -/
theorem rendering_writes_rows (color : Bool) (view : View) (state : SessionState)
    (history : History) :
    WritesRows color view state history where
  single := fun row hrow => feed_not_mem_render (allLack_feed view state history row hrow)
  silent := written_of_nil
  plain := written_plain
  prompted := fun _ => written_prompted
  returned := fun _ => returned_written
  counted := count_feed_written
  results := fun before rest hsplit => by
    obtain ⟨outcome, houtcome, hrest⟩ := eq_of_split_at_result hsplit
    refine ⟨outcome, _, _, houtcome, hrest, ?_, ?_, intercalate_unindented outcome⟩
    · intro hempty
      obtain ⟨text, -, hrow⟩ := List.mem_map.1 hempty
      cases hrow
    · intro row hrow
      obtain ⟨text, -, rfl⟩ := List.mem_map.1 hrow
      exact ⟨text, rfl⟩

/-- A result with a carriage return within a line, a line that ends with one, and an empty line,
shown while a prompt is up. -/
example : ({ prompt := some "[sql]" } : View).written false
    { outcome := some (.success "a\rb\r\n\nc\n") } ⟨[]⟩ =
      "\r\x1b[JResult:\r\n  a\rb\r\n  \r\n  c\r\n\r\n❯ [sql] ".toList := by
  decide

end View

end QueryBridge
