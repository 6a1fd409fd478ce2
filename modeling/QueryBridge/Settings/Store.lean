import QueryBridge.Settings.Document
import QueryBridge.Files.Replace

/-!
# The settings file

Settings are kept in one file. A file that is not there gives settings without
anything set; a file that is there and cannot be read is an error. Saving makes the
directories above the file and replaces it in one step.
-/

set_option autoImplicit false

namespace QueryBridge.Settings

open QueryBridge.Files

/-- The settings in the file at a path. -/
def load (tree : Tree) (path : Path) : Fallible Settings :=
  match tree.read path with
  | .error fault =>
    .error ⟨"Failed to read config file: " ++ path.toString, [fault.message]⟩
  | .ok octets =>
    match Text.Utf8.decode octets with
    | .error _ =>
      .error ⟨"Failed to read config file: " ++ path.toString, [Fault.notText.message]⟩
    | .ok text =>
      match parse? text with
      | none => .error ⟨"Failed to parse config file: " ++ path.toString, ["<toml>"]⟩
      | some settings => .ok settings

/-- The settings in the file at a path, if anything is there. -/
def loadOrDefault (tree : Tree) (path : Path) : Fallible Settings :=
  if tree.has path then load tree path else .ok {}

/-- The complaint about directories that cannot be made. -/
def notPrepared (above : Path) (cause : String) : Report :=
  ⟨"Failed to create config directory: " ++ above.toString, [cause]⟩

/-- The directories above a path are made, if it has any. -/
def prepare (tree : Tree) (path : Path) : Done :=
  match path.parent? with
  | none => (tree, .ok ())
  | some above =>
    match tree.makeDirectories above with
    | (after, .ok ()) => (after, .ok ())
    | (after, .error fault) => (after, .error (notPrepared above fault.message))

/-- Saves settings in the file at a path. -/
def save (tree : Tree) (path : Path) (settings : Settings) : Done :=
  match prepare tree path with
  | (after, .error report) => (after, .error report)
  | (after, .ok ()) => replace after path (Text.Utf8.encode settings.write)

end QueryBridge.Settings
