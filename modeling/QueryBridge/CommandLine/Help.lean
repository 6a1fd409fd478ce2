import QueryBridge.CommandLine.Grammar

/-!
# Help texts

A help text says what a command is for, how it is called, and lists what may stand on
its line. The entries of a list are set in two columns.
-/

set_option autoImplicit false

namespace QueryBridge.CommandLine

/-- An entry of a list: what is typed and what it means. -/
abbrev Row := List Char × List Char

/-- The width of the first column. -/
def columnWidth (rows : List Row) : Nat :=
  rows.foldl (fun width row => max width row.1.length) 0

/-- A list under its title, behind an empty line. -/
def listing (title : String) (rows : List Row) : List Char :=
  '\n' :: title.toList ++ [':', '\n'] ++ rows.flatMap fun row =>
    [' ', ' '] ++ Text.padEnd (columnWidth rows) ' ' row.1 ++ [' ', ' '] ++ row.2 ++ ['\n']

/-- The entry of an option. -/
def Item.row (item : Item) : Row :=
  (item.short.elim [' ', ' ', ' ', ' '] (fun c => ['-', c, ',', ' ']) ++ ['-', '-'] ++
      item.long.toList ++
      item.value.elim [] (fun name => [' ', '<'] ++ name.toList ++ ['>']),
    item.about.toList)

/-- What a help text is about. -/
abbrev Topic := Option Verb

/-- What a command is for. -/
def about : Topic → String
  | none => "SQL ⟷ MongoDB query translation client"
  | some (.command .interactive) => "Interactive translation mode"
  | some (.command .configure) => "Configure qtr settings"
  | some .help => "Print this message or the help of the given subcommand(s)"

/-- How a command is called. -/
def usage : Topic → String
  | none => "qtr [OPTIONS] [FILE] [COMMAND]"
  | some (.command .interactive) => "qtr interactive [OPTIONS]"
  | some (.command .configure) => "qtr configure [OPTIONS]"
  | some .help => "qtr help [COMMAND]..."

/-- The entries of the commands. -/
def commandRows : List Row :=
  [("interactive".toList, (about (some (.command .interactive)) ++ " [alias: i]").toList),
    ("configure".toList, (about (some (.command .configure))).toList),
    ("help".toList, (about (some .help)).toList)]

/-- The entry of the file. -/
def fileRow : Row :=
  ("[FILE]".toList,
    "File containing the query to translate (reads from stdin if not provided)".toList)

/-- The lists of a help text. -/
def listings : Topic → List Char
  | none =>
    listing "Commands" commandRows ++ listing "Arguments" [fileRow] ++
      listing "Options" ((items none).map Item.row)
  | some (.command command) => listing "Options" ((items (some command)).map Item.row)
  | some .help =>
    listing "Arguments" [("[COMMAND]...".toList, "Print help for the subcommand(s)".toList)]

/-- A help text. -/
def helpText (topic : Topic) : String :=
  String.ofList ((about topic).toList ++ "\n\nUsage: ".toList ++ (usage topic).toList ++ ['\n'] ++
    listings topic)

end QueryBridge.CommandLine
