import QueryBridge.Files.Path
import QueryBridge.Report

/-!
# The environment of a run

Variables of the environment say where settings are kept and whether colours are
wanted; flags of the command line add to that. A variable that is set to nothing
counts as not set.
-/

set_option autoImplicit false

namespace QueryBridge

/-- The variables of the environment that matter. -/
structure Environment where
  /-- The directory of all settings files. -/
  configHome : Option String := none
  /-- The home directory. -/
  home : Option String := none
  /-- Anything here turns colours off. -/
  noColor : Option String := none
  deriving DecidableEq, Repr

namespace Environment

open QueryBridge.Files

/-- The value of a variable, unless it is empty. -/
def filled? (value : Option String) : Option String :=
  value.filter (!·.isEmpty)

/-- The directory of this program below the directory of all settings files. -/
def ownDirectory : Path := .ofString "qtr"

/-- The name of the settings file. -/
def settingsFile : Path := .ofString "config.toml"

/-- The directory of the settings file. -/
def configDirectory (environment : Environment) : Fallible Path :=
  match filled? environment.configHome with
  | some directory => .ok ((Path.ofString directory).join ownDirectory)
  | none =>
    match filled? environment.home with
    | some home => .ok (((Path.ofString home).join (.ofString ".config")).join ownDirectory)
    | none => .error ⟨"Failed to determine home directory", []⟩

/-- The path of the settings file. -/
def settingsPath (environment : Environment) : Fallible Path :=
  match environment.configDirectory with
  | .error report => .error report
  | .ok directory => .ok (directory.join settingsFile)

end Environment

/-- How much a run says, and whether in colours. -/
structure OutputMode where
  quiet : Bool
  noColor : Bool
  deriving DecidableEq, Repr

namespace OutputMode

/-- The mode without flags. -/
def ofEnvironment (environment : Environment) : OutputMode :=
  ⟨false, (Environment.filled? environment.noColor).isSome⟩

/-- The mode with flags. -/
def ofFlags (environment : Environment) (quiet noColor : Bool) : OutputMode :=
  ⟨quiet, noColor || (ofEnvironment environment).noColor⟩

/-- Whether colours are shown. -/
def color (mode : OutputMode) : Bool :=
  !mode.noColor

/-- Which diagnostics are shown. -/
def diagnostics (verbose quiet : Bool) : String :=
  if verbose then "qtr_cli=debug" else if quiet then "qtr_cli=error" else "qtr_cli=warn"

end OutputMode

end QueryBridge
