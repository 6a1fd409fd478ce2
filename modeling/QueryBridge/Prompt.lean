import QueryBridge.Report
import QueryBridge.Style

/-!
# Prompts

A prompt gives a line, or it fails. A user who backs out of a prompt has made no
mistake, so a command that asks questions ends well in that case and only moves on to
a fresh line.
-/

set_option autoImplicit false

namespace QueryBridge

/-- Why a prompt gave no line. -/
inductive PromptFailure where
  /-- The user dismissed the prompt. -/
  | canceled
  /-- The user interrupted the program. -/
  | interrupted
  /-- There is no terminal to ask on. -/
  | notTerminal
  | invalidConfiguration (detail : String)
  | custom (detail : String)
  deriving DecidableEq, Repr

namespace PromptFailure

/-- Whether the user backed out. -/
def isCancelled : PromptFailure → Bool
  | .canceled | .interrupted => true
  | _ => false

/-- What a failure of a prompt says. -/
def report : PromptFailure → Report
  | .canceled => ⟨"Operation was canceled by the user", []⟩
  | .interrupted => ⟨"Operation was interrupted by the user", []⟩
  | .notTerminal => ⟨"The input device is not a TTY", []⟩
  | .invalidConfiguration detail => ⟨"The prompt configuration is invalid: " ++ detail, []⟩
  | .custom detail => ⟨"User-provided error: " ++ detail, [detail]⟩

end PromptFailure

/-- Why a command that asks questions fails. -/
inductive AskingError where
  | plain (report : Report)
  /-- A prompt failed; the context, if any, is what was being done. -/
  | prompt (failure : PromptFailure) (context : Option String)
  deriving DecidableEq, Repr

namespace AskingError

/-- What a failure of such a command says. -/
def report : AskingError → Report
  | .plain report => report
  | .prompt failure none => failure.report
  | .prompt failure (some context) =>
    ⟨context, failure.report.message :: failure.report.causes⟩

/-- Whether the user backed out. -/
def isCancelled : AskingError → Bool
  | .plain _ => false
  | .prompt failure _ => failure.isCancelled

end AskingError

/-- How a command that asks questions ends, with the rows that it prints then. -/
def settleAsking : Except AskingError Unit → List Line × Fallible Unit
  | .ok () => ([], .ok ())
  | .error error => if error.isCancelled then ([Line.empty], .ok ()) else ([], .error error.report)

end QueryBridge
