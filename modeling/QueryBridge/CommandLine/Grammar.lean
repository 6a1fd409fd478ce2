import QueryBridge.Text.Numeral

/-!
# The grammar of the command line

A command line has a level of its own and may have a level of a command behind it.
Each level has a table of options, which both the parser and the help texts read.
Options about the service and the output are on every level.
-/

set_option autoImplicit false

namespace QueryBridge.CommandLine

/-- The commands. -/
inductive Command where
  | interactive | configure
  deriving DecidableEq, Repr

/-- The levels of a command line: none for the first, or that of a command. -/
abbrev Level := Option Command

/-- Options without a value. -/
inductive Flag where
  | reverse | quiet | noColor | verbose | showOnly
  deriving DecidableEq, Repr

/-- Options with a value. -/
inductive Setting where
  | endpoint | timeout
  deriving DecidableEq, Repr

/-- What an option does. -/
inductive Action where
  | flag (flag : Flag)
  | setting (setting : Setting)
  | help
  | version
  deriving DecidableEq, Repr

/-- An option of a level. -/
structure Item where
  action : Action
  short : Option Char
  long : String
  /-- The name of the value in help texts. -/
  value : Option String := none
  about : String
  deriving DecidableEq, Repr

/-- The options about the service and the output. -/
def sharedItems : List Item :=
  [{ action := .setting .endpoint, short := some 'e', long := "endpoint", value := some "ENDPOINT"
     about := "Base URL of the translation service" },
    { action := .setting .timeout, short := none, long := "timeout", value := some "TIMEOUT"
      about := "Request timeout in seconds" },
    { action := .flag .quiet, short := some 'q', long := "quiet"
      about := "Suppress status messages and the spinner" },
    { action := .flag .noColor, short := none, long := "no-color"
      about := "Disable colored output" },
    { action := .flag .verbose, short := some 'v', long := "verbose"
      about := "Print debug diagnostics to stderr" },
    { action := .help, short := some 'h', long := "help", about := "Print help" }]

/-- The options that a level has in front of the shared ones. -/
def ownItems : Level → List Item
  | none =>
    [{ action := .flag .reverse, short := some 'r', long := "reverse"
       about := "Translate a MongoDB command to SQL instead of SQL to MongoDB" }]
  | some .interactive =>
    [{ action := .flag .reverse, short := some 'r', long := "reverse"
       about := "Start in MongoDB → SQL mode" }]
  | some .configure =>
    [{ action := .flag .showOnly, short := none, long := "show"
       about := "Show current configuration" }]

/-- The options that a level has behind the shared ones. -/
def lastItems : Level → List Item
  | none => [{ action := .version, short := some 'V', long := "version", about := "Print version" }]
  | some _ => []

/-- The options of a level. -/
def items (level : Level) : List Item :=
  ownItems level ++ sharedItems ++ lastItems level

/-- What a letter behind one dash does. -/
def short? (level : Level) (c : Char) : Option Action :=
  ((items level).find? (·.short = some c)).map Item.action

/-- What a word behind two dashes does. -/
def long? (level : Level) (name : String) : Option Action :=
  ((items level).find? (·.long = name)).map Item.action

/-- A word that stands for a command: one that does something, or the one that explains. -/
inductive Verb where
  | command (command : Command)
  | help
  deriving DecidableEq, Repr

/-- The words that stand for commands. -/
def verbs : List (String × Verb) :=
  [("interactive", .command .interactive), ("i", .command .interactive),
    ("configure", .command .configure), ("help", .help)]

/-- The command that a word stands for. -/
def verb? (word : String) : Option Verb :=
  verbs.lookup word

end QueryBridge.CommandLine
