import QueryBridge.OneShot
import QueryBridge.Prompt

/-!
# The settings dialogue

The command shows the settings in the file, or asks for new ones. A question has a
default, which an empty answer stands for, and a check, which an answer must pass; an
answer that fails it stays in the line to be mended. The new settings are saved once
both questions are answered.
-/

set_option autoImplicit false

namespace QueryBridge.Configure

open QueryBridge.Files

/-! ## Showing settings -/

/-- The spans for a value, or for what is built in. -/
def valueOrDefault (value : Option String) (builtIn : String) : Line :=
  match value with
  | some text => [Style.value.paint text]
  | none => [Style.value.paint builtIn, .plain " ", Span.defaultMarker]

/-- The text of a time limit. -/
def seconds (secs : Nat) : String :=
  toString secs ++ "s"

/-- The rows that show settings. -/
def currentValues (settings : Settings) : List Line :=
  [[Style.header.paint "Current settings"],
    [.plain "  ", Style.label.paint "endpoint", .plain "  "] ++
      valueOrDefault settings.endpoint Settings.defaultEndpoint,
    [.plain "  ", Style.label.paint "timeout", .plain "   "] ++
      valueOrDefault (settings.timeoutSecs.map seconds) (seconds Settings.defaultTimeout),
    Line.empty]

/-- The rows that show the settings file. -/
def settingsFile (path : Path) (settings : Settings) : List Line :=
  [[Style.label.paint "path", .plain "  ", Style.secondary.paint path.toString], Line.empty] ++
    currentValues settings

/-- The rows that show the settings of a run. -/
def display (world : World) : List Line × Fallible Unit :=
  match world.storedSettings with
  | .error report => ([], .error report)
  | .ok (path, settings) => (settingsFile path settings, .ok ())

/-! ## Asking for settings -/

/-- A question with the answer that an empty line stands for. -/
structure Question where
  message : String
  builtIn : String
  deriving DecidableEq, Repr

/-- The answer that a line stands for. -/
def Question.answer (question : Question) (line : String) : String :=
  if line.isEmpty then question.builtIn else line

/-- The question about the endpoint. -/
def endpointQuestion (stored : Settings) : Question :=
  ⟨"Translation service endpoint:", stored.endpoint.getD Settings.defaultEndpoint⟩

/-- The question about the time limit. -/
def timeoutQuestion (stored : Settings) : Question :=
  ⟨"Request timeout (seconds):", toString (stored.timeoutSecs.getD Settings.defaultTimeout)⟩

/-- The endpoint that an answer gives: a web address without the white space around it. -/
def endpointOf (answer : String) : Fallible String :=
  let endpoint := String.ofList (Text.trim answer.toList)
  match Endpoint.validate endpoint with
  | .error report => .error report
  | .ok () => .ok endpoint

/-- Where the dialogue stands. -/
inductive Stage where
  | askEndpoint
  | askTimeout (endpoint : String)
  | answered (settings : Settings)
  deriving DecidableEq, Repr

/-- The question that a stage asks. -/
def Stage.question? (stored : Settings) : Stage → Option Question
  | .askEndpoint => some (endpointQuestion stored)
  | .askTimeout _ => some (timeoutQuestion stored)
  | .answered _ => none

/-- The stage after a line, or the complaint about it. -/
def Stage.take (stored : Settings) (stage : Stage) (line : String) : Fallible Stage :=
  match stage with
  | .askEndpoint =>
    match endpointOf ((endpointQuestion stored).answer line) with
    | .error report => .error report
    | .ok endpoint => .ok (.askTimeout endpoint)
  | .askTimeout endpoint =>
    match Settings.parseTimeout ((timeoutQuestion stored).answer line) with
    | .error report => .error report
    | .ok secs => .ok (.answered ⟨some endpoint, some secs⟩)
  | .answered settings => .ok (.answered settings)

/-- The rows about settings that are saved, on standard error. -/
def saved (path : Path) : List Line :=
  [Line.empty,
    [Style.success.paint "✓", .plain " Configuration saved to ",
      Style.secondary.paint path.toString]]

/-- The end of the dialogue, once both questions are answered. -/
def conclude (files : Tree) (path : Path) (settings : Settings) : Tree × Except AskingError Unit :=
  match Settings.save files path settings with
  | (after, .ok ()) => (after, .ok ())
  | (after, .error report) => (after, .error (.plain report))

end QueryBridge.Configure
