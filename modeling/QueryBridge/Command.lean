import QueryBridge.Text.Numeral
import QueryBridge.Direction

/-!
# Lines of the user

A line is empty, a query, or a command: a slash, a word, and after white space the
rest. The table of commands feeds the help and the completer.
-/

set_option autoImplicit false

namespace QueryBridge

/-- A command of the user. -/
inductive Command where
  | direction (d : Direction)
  | switch
  | draft (text : String)
  | submit
  | history
  /-- The number counts from one; it is absent where the line has no such number. -/
  | load (number : Option Nat)
  | clear
  | copy
  | status
  | config
  | help
  | quit
  /-- Everything behind the slash. -/
  | unknown (text : String)
  deriving DecidableEq, Repr

/-- A line of the user. -/
inductive Input where
  | empty
  | text (query : String)
  | command (command : Command)
  deriving DecidableEq, Repr

/-- The command words with their descriptions, in the order in which they are shown. -/
def commandTable : List (String × String) :=
  [("/sql", "Translate SQL to MongoDB"),
    ("/mongo", "Translate MongoDB to SQL"),
    ("/switch", "Switch translation direction"),
    ("/draft", "Set the input without submitting"),
    ("/submit", "Submit the current input"),
    ("/history", "Show or hide the translation history"),
    ("/load", "Restore a history entry"),
    ("/clear", "Clear the translation history"),
    ("/copy", "Print the bare result for copying"),
    ("/status", "Show inputs and pending requests"),
    ("/config", "Show current configuration"),
    ("/help", "Show available commands"),
    ("/quit", "Exit interactive mode")]

/-- The number of a history entry: an unsigned integer that is not zero. -/
def entryNumber? (s : List Char) : Option Nat :=
  (Text.parseWord? s).filter (0 < ·)

/-- The command of a word and the trimmed rest behind it, if the word is one. -/
def Command.ofWord? (word rest : List Char) : Option Command :=
  match String.ofList word with
  | "sql" => some (.direction .sqlToMongo)
  | "mongo" => some (.direction .mongoToSql)
  | "switch" => some .switch
  | "draft" => some (.draft (String.ofList rest))
  | "submit" => some .submit
  | "history" => some .history
  | "load" => some (.load (entryNumber? rest))
  | "clear" => some .clear
  | "copy" => some .copy
  | "status" => some .status
  | "config" => some .config
  | "help" => some .help
  | "quit" | "exit" | "q" => some .quit
  | _ => none

/-- The command behind a slash. -/
def Command.parse (s : List Char) : Command :=
  let (word, rest) := Text.splitAtSpace s
  (Command.ofWord? word (Text.trim rest)).getD (.unknown (String.ofList s))

/-- What a trimmed line means. -/
def Input.ofTrimmed : List Char → Input
  | [] => .empty
  | '/' :: rest => .command (Command.parse rest)
  | query => .text (String.ofList query)

/-- What a line means. -/
def Input.parse (line : String) : Input :=
  Input.ofTrimmed (Text.trim line.toList)

end QueryBridge
