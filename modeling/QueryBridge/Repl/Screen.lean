import QueryBridge.View.Intent
import QueryBridge.Command

/-!
# What the interactive session prints

Everything here goes to standard output or standard error and is no part of the
view: the header, the farewell, and the answers to commands about the session.
-/

set_option autoImplicit false

namespace QueryBridge

/-- A piece of output: an emission of the view, or rows for one of the standard streams. -/
inductive Output where
  | screen (emission : Emission)
  | out (lines : List Line)
  | err (lines : List Line)
  deriving DecidableEq, Repr

/-- The name and the version of the program. -/
def programVersion : String := "0.1.0"

/-- The settings of an interactive session. The time limit of a request is in milliseconds. -/
structure ReplConfig where
  endpoint : String
  timeoutMillis : Nat
  direction : Direction
  deriving DecidableEq, Repr

namespace Screen

/-- The header at the start. -/
def header (config : ReplConfig) : List Line :=
  [[Style.header.paint "qtr", .plain " ", Style.version.paint ("v" ++ programVersion),
      .plain " - SQL ⟷ MongoDB Query Translator"],
    [Style.secondary.paint ("Connected to " ++ config.endpoint)],
    Line.empty]

/-- The remark that requests are waited for. -/
def waiting (pending : Nat) : List Line :=
  [[Style.secondary.paint ("Waiting for " ++ toString pending ++
    " unfinished translation(s), Ctrl+C to discard")]]

/-- The farewell, with the number of requests that were given up. -/
def goodbye (abandoned : Nat) : List Line :=
  (if 0 < abandoned then
    [[Style.warning.paint ("Discarding " ++ toString abandoned ++ " unfinished translation(s)")]]
    else []) ++ [[Style.success.paint "Goodbye!"]]

/-- The answer to the command about the settings. -/
def config (config : ReplConfig) : List Line :=
  [[Style.header.paint "Configuration"],
    [.plain "  ", Style.label.paint "endpoint", .plain "   ", Style.value.paint config.endpoint],
    [.plain "  ", Style.label.paint "timeout", .plain "    ",
      Style.value.paint (toString (config.timeoutMillis / 1000) ++ "s")],
    Line.empty]

/-- The rows about one direction of a session. -/
def directionStatus (state : SessionState) (d : Direction) : List Line :=
  ([.plain "  ", Style.success.paint (if d = state.direction then "❯" else " "), .plain " ",
      Style.value.paint d.label] ++
      if state.isBusy d then [Style.warning.paint " (translating)"] else []) ::
    (if (state.input d).isEmpty then [[.plain "      ", Style.secondary.paint "(empty)"]]
      else (Text.linesOf (state.input d)).map fun row => [.plain "      ", .plain row])

/-- The answer to the command about inputs and requests. -/
def status (state : SessionState) : List Line :=
  [Style.header.paint "Status"] :: Direction.all.flatMap (directionStatus state) ++ [Line.empty]

/-- The row about one command. -/
def helpLine (row : String × String) : Line :=
  [.plain "  ", Style.command.paint (String.ofList (Text.padEnd 9 ' ' row.1.toList)), .plain "  ",
    Style.secondary.paint row.2]

/-- The answer to the command about commands. -/
def help : List Line :=
  [Style.header.paint "Available commands"] :: commandTable.map helpLine ++
    [Line.empty,
      [.plain "  ", Style.hint.paint "Any other input is translated in the current direction."],
      Line.empty]

/-- An error, on standard error. -/
def error (message : String) : List Line :=
  [[Style.error.paint "Error:", .plain " ", .plain message], Line.empty]

end Screen

end QueryBridge
