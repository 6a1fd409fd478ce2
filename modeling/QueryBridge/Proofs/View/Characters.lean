import QueryBridge.Proofs.Text.Lines
import QueryBridge.Proofs.Text.Spelling
import QueryBridge.View.Terminal

/-!
# Control characters in rows

The texts in a row are constants, numbers, dates, and pieces of the texts that it shows: lines of
them or a preview (`mem_preview`). The former are printable, so a control character is in a row of
the view only if it is in such a piece. This is shown for any one control character
(`allLack_transitionLines`); which texts have pieces without it is another question, with one answer
for escape characters and another one for line feeds.
-/

set_option autoImplicit false

namespace QueryBridge

/-! ## Printable texts -/

namespace Text

/-- A text without control characters. -/
def Printable (s : List Char) : Prop :=
  ∀ c ∈ s, 32 ≤ c.toNat

-- Named, since a search may find an instance that goes through all characters there are.
instance (s : List Char) : Decidable (Printable s) :=
  List.decidableBAll (fun c : Char => 32 ≤ c.toNat) s

variable {c d : Char} {s t : List Char} {width : Nat}

theorem ne_of_control (hc : c.toNat < 32) (hd : 32 ≤ d.toNat) : c ≠ d :=
  fun h => Nat.not_le.2 hc (h ▸ hd)

theorem Printable.not_mem (h : Printable s) (hc : c.toNat < 32) : c ∉ s :=
  fun hin => Nat.not_le.2 hc (h c hin)

theorem Printable.append (hs : Printable s) (ht : Printable t) : Printable (s ++ t) :=
  List.forall_mem_append.2 ⟨hs, ht⟩

theorem Printable.cons (hc : 32 ≤ c.toNat) (hs : Printable s) : Printable (c :: s) :=
  List.forall_mem_cons.2 ⟨hc, hs⟩

theorem Printable.padStart (hc : 32 ≤ c.toNat) (hs : Printable s) :
    Printable (padStart width c s) :=
  Printable.append (fun _ hin => (List.eq_of_mem_replicate hin).symm ▸ hc) hs

theorem printable_decimal (n : Nat) : Printable (decimal n) := by
  intro c hc
  have hdigit := List.all_eq_true.1 (all_isDigit_decimal n) c hc
  rw [Char.isDigit, Bool.and_eq_true, decide_eq_true_iff] at hdigit
  have hlow : '0'.toNat ≤ c.toNat := hdigit.1
  exact Nat.le_trans (by decide) hlow

end Text

open Text

theorem Calendar.printable_format (instant : Instant) : Printable (format instant).toList := by
  have hdigits (width n : Nat) : Printable (digits width n) :=
    (printable_decimal n).padStart (by decide)
  have hyear (year : Int) : Printable (yearText year) := by
    rw [yearText]
    split
    · exact hdigits _ _
    · refine (hdigits _ _).cons ?_
      split <;> decide
  rw [format, String.toList_ofList]
  have hfield {mark : Char} (hmark : 32 ≤ mark.toNat) (n : Nat) : Printable (mark :: digits 2 n) :=
    (hdigits 2 n).cons hmark
  have hdash (n : Nat) := hfield (show 32 ≤ '-'.toNat by decide) n
  have hblank (n : Nat) := hfield (show 32 ≤ ' '.toNat by decide) n
  have hcolon (n : Nat) := hfield (show 32 ≤ ':'.toNat by decide) n
  have hdate (year : Int) (month day : Nat) :=
    ((hyear year).append (hdash month)).append (hdash day)
  exact (((hdate _ _ _).append (hblank _)).append (hcolon _)).append (hcolon _)

-- A clock that is an hour ahead of universal time, and a year that needs a sign.
example : Calendar.format ⟨1700000000, 3600⟩ = "2023-11-14 23:13:20" ∧
    Calendar.format ⟨-62198755200, 0⟩ = "-0001-01-01 00:00:00" := by
  decide

theorem Direction.printable_label (d : Direction) : Printable d.label.toList := by
  cases d <;> decide

theorem Direction.printable_historyLabel (d : Direction) : Printable d.historyLabel.toList := by
  cases d <;> decide

/-! ## Rows -/

/-- A style changes nothing in the text that it paints. -/
@[simp] theorem Style.text_paint (style : Style) (text : String) : (style.paint text).text = text :=
  rfl

@[simp] theorem Span.text_plain (text : String) : (Span.plain text).text = text :=
  rfl

namespace Line

/-- No text of a row has the character. -/
def Lacks (c : Char) (line : Line) : Prop :=
  ∀ span ∈ line, c ∉ span.text.toList

/-- No text of the rows has the character. -/
def AllLack (c : Char) (lines : List Line) : Prop :=
  ∀ line ∈ lines, line.Lacks c

variable {c : Char} {line : Line} {lines : List Line}

@[simp] theorem lacks_nil : Lacks c [] :=
  List.forall_mem_nil _

/-- A line lacks a character if each of its spans does. -/
@[simp] theorem lacks_cons {span : Span} :
    Lacks c (span :: line) ↔ c ∉ span.text.toList ∧ line.Lacks c :=
  List.forall_mem_cons

@[simp] theorem allLack_nil : AllLack c [] :=
  List.forall_mem_nil _

@[simp] theorem allLack_cons : AllLack c (line :: lines) ↔ line.Lacks c ∧ AllLack c lines :=
  List.forall_mem_cons

@[simp] theorem allLack_append {more : List Line} :
    AllLack c (lines ++ more) ↔ AllLack c lines ∧ AllLack c more :=
  List.forall_mem_append

end Line

open Line

namespace View

variable {c : Char}

/-- A preview is made of characters of one line and an ellipsis. -/
theorem mem_preview {s : List Char} (h : c ∈ preview s) : (∃ row ∈ lines s, c ∈ row) ∨ c = '…' := by
  have hfirst : ∀ d ∈ (lines s).headD [], ∃ row ∈ lines s, d ∈ row := by
    intro d hd
    cases hlines : lines s with
    | nil =>
        rw [hlines] at hd
        cases hd
    | cons row rest =>
        rw [hlines] at hd
        exact ⟨row, List.mem_cons_self, hd⟩
  rw [preview] at h
  split at h
  · rcases List.mem_append.1 h with htaken | hmark
    · exact .inl (hfirst c (List.mem_of_mem_take htaken))
    · exact .inr (List.mem_singleton.1 hmark)
  · exact .inl (hfirst c h)

section Rows

variable (hc : c.toNat < 32)
include hc

/-- The row for an input has the characters of its preview and printable ones. -/
theorem lacks_inputLine {input : String} (h : c ∉ (previewOf input).toList) :
    (inputLine input).Lacks c := by
  simp +decide [inputLine, ne_of_control hc, h]

/-- The rows for an outcome have the characters of its lines and printable ones. -/
theorem allLack_resultLines {outcome : Outcome} (h : ∀ row ∈ lines outcome.text.toList, c ∉ row) :
    AllLack c (resultLines outcome) := by
  have hrows (style : Style) : AllLack c ((linesOf outcome.text).map fun row =>
      [.plain "  ", style.paint row]) := by
    intro line hline
    obtain ⟨row, hrow, rfl⟩ := List.mem_map.1 hline
    obtain ⟨chars, hchars, rfl⟩ := List.mem_map.1 hrow
    simp +decide [ne_of_control hc, h chars hchars]
  simp +decide [resultLines, Line.empty, ne_of_control hc, hrows]

theorem allLack_historyEntryLines (number : Nat) {entry : HistoryEntry}
    (h : c ∉ (previewOf entry.input).toList) : AllLack c (historyEntryLines number entry) := by
  have hnumber : c ∉ padStart 3 ' ' (decimal number) :=
    ((printable_decimal number).padStart (by decide)).not_mem hc
  have hlabel : c ∉ entry.direction.historyLabel.toList :=
    entry.direction.printable_historyLabel.not_mem hc
  have hdate : c ∉ (Calendar.format entry.createdAt).toList :=
    (Calendar.printable_format entry.createdAt).not_mem hc
  simp +decide [historyEntryLines, ne_of_control hc, hnumber, hlabel, hdate, h]

theorem allLack_numberedEntries {entries : List HistoryEntry}
    (h : ∀ entry ∈ entries, c ∉ (previewOf entry.input).toList) (number : Nat) :
    AllLack c (numberedEntries number entries) := by
  induction entries generalizing number with
  | nil => exact allLack_nil
  | cons entry rest ih =>
      obtain ⟨hentry, hrest⟩ := List.forall_mem_cons.1 h
      exact allLack_append.2 ⟨allLack_historyEntryLines hc number hentry, ih hrest _⟩

theorem allLack_historyPanel {log : History}
    (h : ∀ entry ∈ log.entries, c ∉ (previewOf entry.input).toList) :
    AllLack c (historyPanel log) := by
  rw [historyPanel]
  split
  · simp +decide [Line.empty, ne_of_control hc]
  · simp +decide [Line.empty, ne_of_control hc, allLack_numberedEntries hc h]

/-- Which texts of a state and a history have pieces in the rows that a view writes, and what is
asked of the pieces. -/
theorem allLack_transitionLines {view : View} {state : SessionState} {history : History}
    (hinput : c ∉ (previewOf state.activeInput).toList)
    (houtcome : ∀ outcome ∈ state.outcome, ∀ row ∈ lines outcome.text.toList, c ∉ row)
    (hentries : ∀ entry ∈ history.entries, c ∉ (previewOf entry.input).toList) :
    AllLack c (view.transitionLines state history) := by
  have hlabel (d : Direction) : c ∉ d.label.toList := d.printable_label.not_mem hc
  have hhistoryLabel (d : Direction) : c ∉ d.historyLabel.toList :=
    d.printable_historyLabel.not_mem hc
  have hshown := lacks_inputLine hc hinput
  -- Besides the texts in question, each part of the rows has labels and marks only.
  have hdirection : AllLack c (view.directionLines state) := by
    rw [directionLines]
    split
    · simp +decide [ne_of_control hc, hhistoryLabel, hshown]
    · split
      · split <;> simp +decide [ne_of_control hc, hlabel, hshown]
      · exact allLack_nil
  have hstart : AllLack c (view.startLines state) := by
    intro line hline
    obtain ⟨d, -, rfl⟩ := List.mem_map.1 hline
    simp +decide [ne_of_control hc, hlabel]
  have hresult : AllLack c (view.outcomeLines state history) := by
    rw [outcomeLines]
    split
    · cases hoption : state.outcome with
      | none => exact allLack_nil
      | some outcome => exact allLack_resultLines hc (houtcome outcome hoption)
    · exact allLack_nil
  have hcleared : AllLack c (view.clearedLines history) := by
    rw [clearedLines]
    split <;> simp +decide [ne_of_control hc]
  have hpanel : AllLack c (view.panelLines state history) := by
    rw [panelLines]
    split
    · split
      · exact allLack_historyPanel hc hentries
      · exact allLack_nil
    · split <;> simp +decide [ne_of_control hc]
  rw [transitionLines]
  simp only [allLack_append]
  exact ⟨⟨⟨⟨hdirection, hstart⟩, hresult⟩, hcleared⟩, hpanel⟩

end Rows

end View

end QueryBridge
