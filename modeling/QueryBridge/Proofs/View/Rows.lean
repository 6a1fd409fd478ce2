import QueryBridge.Proofs.View.Characters
import QueryBridge.Proofs.View.Colors

/-!
# Rows without escape characters

An escape character is a control character, so a row has one only where a piece of a text that it
shows has one, and the characters of a piece are characters of the text. Rows of the view are dealt
with for all control characters at once (`View.allLack_transitionLines`); here are the rows of the
screens.
-/

set_option autoImplicit false

namespace QueryBridge

/-! ## Texts -/

section Texts

variable {s t : String}

@[simp] theorem escapeFree_append : EscapeFree (s ++ t) ↔ EscapeFree s ∧ EscapeFree t := by
  simp [EscapeFree]

@[simp] theorem escapeFree_ofList {chars : List Char} :
    EscapeFree (String.ofList chars) ↔ escape ∉ chars := by
  simp [EscapeFree]

/-- A text whose characters are all from a text without escapes has none. -/
theorem EscapeFree.ofList_of_subset {chars : List Char} (h : EscapeFree s)
    (hsub : ∀ c ∈ chars, c ∈ s.toList) : EscapeFree (String.ofList chars) :=
  escapeFree_ofList.2 fun hin => h (hsub escape hin)

@[simp] theorem escape_not_mem_decimal (n : Nat) : escape ∉ Text.decimal n :=
  (Text.printable_decimal n).not_mem (by decide)

@[simp] theorem escapeFree_repr (n : Nat) : EscapeFree n.repr := by
  have hdecimal : n.repr = String.ofList (Text.decimal n) := rfl
  rw [hdecimal, escapeFree_ofList]
  exact escape_not_mem_decimal n

@[simp] theorem escape_not_mem_padEnd {width : Nat} {c : Char} {chars : List Char}
    (hc : c ≠ escape) (h : escape ∉ chars) : escape ∉ Text.padEnd width c chars := by
  simp [Text.padEnd, h, List.mem_replicate, hc.symm]

end Texts

theorem EscapeFree.of_mem_linesOf {text row : String} (h : EscapeFree text)
    (hrow : row ∈ Text.linesOf text) : EscapeFree row := by
  obtain ⟨chars, hchars, rfl⟩ := List.mem_map.1 hrow
  exact h.ofList_of_subset fun c hc => Text.mem_of_mem_lines hchars hc

namespace Direction

@[simp] theorem escapeFree_label (d : Direction) : EscapeFree d.label := by
  cases d <;> decide

@[simp] theorem escapeFree_tag (d : Direction) : EscapeFree d.tag := by
  cases d <;> decide

end Direction

/-! ## Rows -/

namespace Line

@[simp] theorem unescaped_nil : Unescaped [] :=
  List.forall_mem_nil _

@[simp] theorem unescaped_cons {span : Span} {line : Line} :
    Unescaped (span :: line) ↔ EscapeFree span.text ∧ line.Unescaped :=
  List.forall_mem_cons

@[simp] theorem allUnescaped_nil : AllUnescaped [] :=
  List.forall_mem_nil _

@[simp] theorem allUnescaped_cons {line : Line} {lines : List Line} :
    AllUnescaped (line :: lines) ↔ line.Unescaped ∧ AllUnescaped lines :=
  List.forall_mem_cons

@[simp] theorem allUnescaped_append {lines more : List Line} :
    AllUnescaped (lines ++ more) ↔ AllUnescaped lines ∧ AllUnescaped more :=
  List.forall_mem_append

end Line

open Line

namespace View

/-- The preview of a text without escapes has none. -/
theorem escapeFree_previewOf {text : String} (h : EscapeFree text) :
    EscapeFree (previewOf text) := by
  rw [previewOf, escapeFree_ofList]
  intro hin
  rcases mem_preview hin with ⟨row, hrow, hc⟩ | hmark
  · exact h (Text.mem_of_mem_lines hrow hc)
  · exact absurd hmark (by decide)

/-- The message of a prompt is made of names of directions. -/
theorem escapeFree_promptMessage (state : SessionState) : EscapeFree (promptMessage state) := by
  rw [promptMessage]
  split
  · simp +decide
  · simp +decide

end View

namespace Screen

/-- The header shows the address, which is its only text from outside. -/
theorem unescaped_header {config : ReplConfig} (h : EscapeFree config.endpoint) :
    AllUnescaped (header config) := by
  simp +decide [header, Line.empty, programVersion, h]

theorem unescaped_waiting (pending : Nat) : AllUnescaped (waiting pending) := by
  simp +decide [waiting]

theorem unescaped_goodbye (abandoned : Nat) : AllUnescaped (goodbye abandoned) := by
  rw [goodbye]
  split
  · simp +decide
  · simp +decide

theorem unescaped_config {settings : ReplConfig} (h : EscapeFree settings.endpoint) :
    AllUnescaped (config settings) := by
  simp +decide [config, Line.empty, h]

theorem unescaped_directionStatus {state : SessionState} {d : Direction}
    (h : EscapeFree (state.input d)) : AllUnescaped (directionStatus state d) := by
  have hrows : AllUnescaped ((Text.linesOf (state.input d)).map fun row =>
      [.plain "      ", .plain row]) := by
    intro line hline
    obtain ⟨row, hrow, rfl⟩ := List.mem_map.1 hline
    simp +decide [h.of_mem_linesOf hrow]
  rw [directionStatus]
  refine allUnescaped_cons.2 ⟨?_, ?_⟩
  · split <;> split <;> simp +decide
  · split
    · simp +decide
    · exact hrows

/-- The status shows both buffers and nothing else from outside. -/
theorem unescaped_status {state : SessionState} (h : ∀ d, EscapeFree (state.input d)) :
    AllUnescaped (status state) := by
  have hdirections : AllUnescaped (Direction.all.flatMap (directionStatus state)) := by
    intro line hline
    obtain ⟨d, -, hin⟩ := List.mem_flatMap.1 hline
    exact unescaped_directionStatus (h d) line hin
  simp +decide [status, Line.empty, hdirections]

theorem unescaped_help : AllUnescaped help := by
  have hrow : ∀ row ∈ commandTable, escape ∉ row.1.toList ∧ EscapeFree row.2 := by decide
  have hrows : AllUnescaped (commandTable.map helpLine) := by
    intro line hline
    obtain ⟨row, hin, rfl⟩ := List.mem_map.1 hline
    simp +decide [helpLine, hrow row hin]
  simp +decide [help, Line.empty, hrows]

theorem unescaped_error {message : String} (h : EscapeFree message) :
    AllUnescaped (error message) := by
  simp +decide [error, Line.empty, h]

end Screen

end QueryBridge
