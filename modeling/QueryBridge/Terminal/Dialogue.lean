import QueryBridge.Terminal.Keyboard
import QueryBridge.Configure

/-!
# The settings dialogue at a terminal

Each line that is handed over answers the question at hand. A line that fails the
check of its question stays where it is, to be mended.
-/

set_option autoImplicit false

namespace QueryBridge.Terminal

open QueryBridge.Configure

/-- The dialogue with the line that is being typed. -/
structure Dialogue where
  stage : Stage := .askEndpoint
  typed : Typed := []
  deriving DecidableEq, Repr

namespace Dialogue

/-- Takes a line; one that is refused stays. -/
def submit (stored : Settings) (dialogue : Dialogue) (line : String) : Dialogue :=
  match dialogue.stage.take stored line with
  | .ok stage => ⟨stage, []⟩
  | .error _ => dialogue

/-- One gesture; the prompt may fail. -/
def step (stored : Settings) (dialogue : Dialogue) : Gesture → Except PromptFailure Dialogue
  | .pause => .ok dialogue
  | .key key =>
    match press dialogue.typed key with
    | (typed, none) => .ok { dialogue with typed := typed }
    | (_, some (.ok line)) => .ok (dialogue.submit stored line)
    | (_, some (.error failure)) => .error failure

/-- The settings, once both questions are answered. -/
def settings? (dialogue : Dialogue) : Option Settings :=
  match dialogue.stage with
  | .answered settings => some settings
  | .askEndpoint | .askTimeout _ => none

/-- The settings that a user types, or the failure of the prompt. Where the keys end before the
questions do, the prompt breaks down with its terminal. -/
def run (stored : Settings) (dialogue : Dialogue) :
    List Gesture → Except PromptFailure Settings
  | [] => dialogue.settings?.elim (.error .notTerminal) .ok
  | gesture :: rest =>
    match dialogue.settings? with
    | some settings => .ok settings
    | none =>
      match dialogue.step stored gesture with
      | .ok next => run stored next rest
      | .error failure => .error failure

end Dialogue

/-- The settings that a user gives, or the failure of a prompt without a terminal. -/
def askSettings (stored : Settings) : Option (List Gesture) → Except PromptFailure Settings
  | none => .error .notTerminal
  | some gestures => Dialogue.run stored {} gestures

/-- How a command about settings ends. -/
structure Conclusion where
  result : Except AskingError Unit
  files : Files.Tree
  out : List Line := []
  err : List Line := []
  deriving Repr

/-- The command that asks for settings and saves them. -/
def configure (world : World) (quiet : Bool) (user : Option (List Gesture)) : Conclusion :=
  match world.storedSettings with
  | .error report => { result := .error (.plain report), files := world.files }
  | .ok (path, stored) =>
    let rows := currentValues stored
    match askSettings stored user with
    | .error failure =>
      { result := .error (.prompt failure none), files := world.files, out := rows }
    | .ok settings =>
      match conclude world.files path settings with
      | (files, .error error) => { result := .error error, files := files, out := rows }
      | (files, .ok ()) =>
        { result := .ok (), files := files, out := rows, err := if quiet then [] else saved path }

end QueryBridge.Terminal
