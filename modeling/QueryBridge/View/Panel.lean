import QueryBridge.Style
import QueryBridge.Session

/-!
# Rows of the view

The rows for a result, for an input and for the history panel. No text of a user or
of the service stands in a row with a line feed: results are split into lines, and
inputs are cut to their first line.
-/

set_option autoImplicit false

namespace QueryBridge.View

/-- The number of characters that a preview shows. -/
def previewWidth : Nat := 60

/-- The first line of a text, cut to `previewWidth` characters. A cut, or a second line, shows as an
ellipsis. -/
def preview (s : List Char) : List Char :=
  let rows := Text.lines s
  let first := rows.headD []
  if previewWidth < first.length || 1 < rows.length then first.take previewWidth ++ ['…']
  else first

/-- The preview of a string. -/
def previewOf (text : String) : String :=
  String.ofList (preview text.toList)

/-- The row that shows an input. -/
def inputLine (input : String) : Line :=
  [.plain "  ", Style.label.paint "input", .plain " ", .plain (previewOf input)]

/-- The rows that show an outcome: a header, its lines and an empty row. -/
def resultLines (outcome : Outcome) : List Line :=
  let style := if outcome.isFailure then Style.error else Style.value
  [Style.header.paint "Result:"] ::
    (Text.linesOf outcome.text).map (fun row => [.plain "  ", style.paint row]) ++ [Line.empty]

/-- The two rows of the history entry with a number. -/
def historyEntryLines (number : Nat) (entry : HistoryEntry) : List Line :=
  [[.plain ("  " ++ String.ofList (Text.padStart 3 ' ' (Text.decimal number)) ++ ". "),
      Style.code.paint entry.direction.historyLabel, .plain "  ",
      Style.secondary.paint (Calendar.format entry.createdAt)],
    [.plain "       ", .plain (previewOf entry.input)]]

/-- The rows of history entries that are numbered from `number` on. -/
def numberedEntries (number : Nat) : List HistoryEntry → List Line
  | [] => []
  | entry :: rest => historyEntryLines number entry ++ numberedEntries (number + 1) rest

/-- The rows of the history panel. -/
def historyPanel (log : History) : List Line :=
  [Style.header.paint "Translation History"] ::
    (if log.isEmpty then [[.plain "  ", Style.secondary.paint "No translations yet"]]
      else numberedEntries 1 log.entries ++
        [[Style.hint.paint "  /load <n> restores an entry, /clear clears the history"]]) ++
    [Line.empty]

/-- The prompt of a session, marked while the selected direction is busy. -/
def promptMessage (state : SessionState) : String :=
  if state.isBusy state.direction then "[" ++ state.direction.tag ++ "] (translating)"
  else "[" ++ state.direction.tag ++ "]"

end QueryBridge.View
