import QueryBridge.CommandLine.Grammar
import QueryBridge.CommandLine.Help
import QueryBridge.Text.Similarity

/-!
# Reading a command line

Arguments are taken from left to right, and the first fault, or the first wish for
help, ends the reading. A value that stands apart from its option, and the file, are
judged only when the next option, the next file or the end of the level comes; flags
and attached values are judged at once.
-/

set_option autoImplicit false

namespace QueryBridge.CommandLine

/-- Faults of a command line. -/
inductive Fault where
  /-- An option lacks its value, or the file is empty. -/
  | missingValue
  /-- An option stands twice on its level. -/
  | repeated
  /-- A value is no number. -/
  | badValue
  /-- A flag has a value. -/
  | unwantedValue
  | unknownArgument
  | unknownCommand
  deriving DecidableEq, Repr

/-- Why the reading of a command line ends early. -/
inductive Stop where
  | fault (fault : Fault)
  | help (topic : Topic)
  | version
  deriving DecidableEq, Repr

/-- What is given on one level. -/
structure Given where
  file : Option String := none
  flags : List Flag := []
  endpoint : Option String := none
  timeout : Option Nat := none
  deriving DecidableEq, Repr

/-- What is taken and not judged yet. -/
inductive Pending where
  | setting (setting : Setting) (value : Option String)
  | file (name : String)
  deriving DecidableEq, Repr

/-- How far the reading of a level has come. -/
structure Progress where
  given : Given := {}
  pending : Option Pending := none
  /-- Whether the file is taken. -/
  hasFile : Bool := false
  deriving DecidableEq, Repr

namespace Given

/-- Takes the value of an option up. -/
def set (given : Given) : Setting → String → Except Fault Given
  | .endpoint, value =>
    if given.endpoint.isSome then .error .repeated else .ok { given with endpoint := some value }
  | .timeout, value =>
    if given.timeout.isSome then .error .repeated
    else
      match Text.parseWord? value.toList with
      | some n => .ok { given with timeout := some n }
      | none => .error .badValue

/-- Takes a flag up. -/
def raise (given : Given) (flag : Flag) : Except Fault Given :=
  if given.flags.contains flag then .error .repeated
  else .ok { given with flags := flag :: given.flags }

/-- Judges what is pending. -/
def settle (given : Given) : Option Pending → Except Fault Given
  | none => .ok given
  | some (.setting _ none) => .error .missingValue
  | some (.setting setting (some value)) => given.set setting value
  | some (.file name) =>
    if name.isEmpty then .error .missingValue else .ok { given with file := some name }

end Given

namespace Progress

/-- Judges what is pending. -/
def settle (progress : Progress) : Except Fault Progress :=
  (progress.given.settle progress.pending).map fun given =>
    { progress with given := given, pending := none }

/-- Whether an option waits for its value. -/
def awaitsValue (progress : Progress) : Bool :=
  match progress.pending with
  | some (.setting _ none) => true
  | _ => false

/-- Takes the value of the option that waits for it. -/
def supply (progress : Progress) (value : String) : Progress :=
  match progress.pending with
  | some (.setting setting _) => { progress with pending := some (.setting setting (some value)) }
  | _ => progress

/-- Takes an option without an attached value. -/
def act (level : Level) (progress : Progress) (action : Action) : Except Stop Progress :=
  match progress.settle with
  | .error fault => .error (.fault fault)
  | .ok settled =>
    match action with
    | .help => .error (.help (level.map .command))
    | .version => .error .version
    | .setting setting => .ok { settled with pending := some (.setting setting none) }
    | .flag flag =>
      match settled.given.raise flag with
      | .error fault => .error (.fault fault)
      | .ok given => .ok { settled with given := given }

/-- Takes an option with an attached value. -/
def attach (progress : Progress) (action : Action) (value : String) : Except Stop Progress :=
  match action with
  | .setting setting =>
    match progress.settle with
    | .error fault => .error (.fault fault)
    | .ok settled =>
      match settled.given.set setting value with
      | .error fault => .error (.fault fault)
      | .ok given => .ok { settled with given := given }
  | _ => .error (.fault .unwantedValue)

/-- Takes what stands behind two dashes: a word, and a value behind an equals sign. -/
def takeLong (level : Level) (progress : Progress) (s : List Char) : Except Stop Progress :=
  match long? level (String.ofList (s.takeWhile (· ≠ '='))) with
  | none => .error (.fault .unknownArgument)
  | some action =>
    match s.dropWhile (· ≠ '=') with
    | [] => progress.act level action
    | _ :: value => progress.attach action (String.ofList value)

/-- What is attached to a letter: an equals sign in front of a value may be left out. -/
def attached : List Char → String
  | '=' :: value => String.ofList value
  | value => String.ofList value

/-- Takes what stands behind one dash: letters of flags, the last of which may be that of an option
with its value attached. -/
def takeShort (level : Level) (progress : Progress) : List Char → Except Stop Progress
  | [] => .ok progress
  | c :: rest =>
    match short? level c with
    | none => .error (.fault .unknownArgument)
    | some (.setting setting) =>
      if rest.isEmpty then progress.act level (.setting setting)
      else progress.attach (.setting setting) (attached rest)
    | some action =>
      match progress.act level action with
      | .error stop => .error stop
      | .ok next => takeShort level next rest

/-- Whether a word is close to that of a command. -/
def resemblesVerb (word : String) : Bool :=
  verbs.any fun (name, _) => Text.Similarity.isClose word.toList name.toList

/-- Takes an argument that is no option: the file, which only the first level has, and once. -/
def takeFile (level : Level) (progress : Progress) (literal : Bool) (name : String) :
    Except Stop Progress :=
  if level.isNone && !progress.hasFile then
    match progress.settle with
    | .error fault => .error (.fault fault)
    | .ok settled => .ok { settled with pending := some (.file name), hasFile := true }
  else if level.isNone && !literal && resemblesVerb name then .error (.fault .unknownCommand)
  else .error (.fault .unknownArgument)

end Progress

/-- An argument, by its looks. -/
inductive Shape where
  | separator
  | long (s : List Char)
  | short (s : List Char)
  | plain
  deriving DecidableEq, Repr

/-- The looks of an argument. A lone dash is plain. -/
def shapeOf (argument : String) : Shape :=
  match argument.toList with
  | ['-', '-'] => .separator
  | '-' :: '-' :: rest => .long rest
  | ['-'] => .plain
  | '-' :: rest => .short rest
  | _ => .plain

/-- The command whose word an argument is, where a command may stand. -/
def commandAt (level : Level) (progress : Progress) (argument : String) : Option Verb :=
  if level.isNone && !progress.awaitsValue then verb? argument else none

/-- Takes an argument on a level, in front of any separator. -/
def take (level : Level) (progress : Progress) (argument : String) : Except Stop Progress :=
  match shapeOf argument with
  | .long s => progress.takeLong level s
  | .short s => progress.takeShort level s
  | .separator | .plain =>
    if progress.awaitsValue then .ok (progress.supply argument)
    else progress.takeFile level false argument

/-- The end of a level. -/
def finish (progress : Progress) : Except Stop Given :=
  match progress.settle with
  | .error fault => .error (.fault fault)
  | .ok settled => .ok settled.given

/-- The arguments behind a separator, which are no options. -/
def readLiteral (level : Level) (progress : Progress) : List String → Except Stop Given
  | [] => finish progress
  | argument :: rest =>
    match progress.takeFile level true argument with
    | .error stop => .error stop
    | .ok next => readLiteral level next rest

/-- The level of a command. -/
def readCommand (command : Command) (progress : Progress) : List String → Except Stop Given
  | [] => finish progress
  | argument :: rest =>
    if shapeOf argument = .separator then readLiteral (some command) progress rest
    else
      match take (some command) progress argument with
      | .error stop => .error stop
      | .ok next => readCommand command next rest

/-- The help that the words behind the word for help ask for. -/
def explain (topic : Topic) : List String → Stop
  | [] => .help topic
  | word :: rest =>
    match topic, verb? word with
    | none, some verb => explain (some verb) rest
    | _, _ => .fault .unknownCommand

/-- What stands on a whole command line: its first level, and the level of a command. -/
abbrev Levels := Given × Option (Command × Given)

/-- All levels, from an argument of the first level on. The level of a command is read before what
is pending on the first level is judged. -/
def readLevels (progress : Progress) : List String → Except Stop Levels
  | [] => (finish progress).map fun given => (given, none)
  | argument :: rest =>
    match commandAt none progress argument with
    | some .help => .error (explain none rest)
    | some (.command command) =>
      match readCommand command {} rest with
      | .error stop => .error stop
      | .ok inner => (finish progress).map fun given => (given, some (command, inner))
    | none =>
      if shapeOf argument = .separator then
        (readLiteral none progress rest).map fun given => (given, none)
      else
        match take none progress argument with
        | .error stop => .error stop
        | .ok next => readLevels next rest

/-- What a run is asked to do besides converting one query. -/
inductive Task where
  | interactive (reverse : Bool)
  | configure (showOnly : Bool)
  deriving DecidableEq, Repr

/-- A command line, read. -/
structure Arguments where
  file : Option String := none
  reverse : Bool := false
  endpoint : Option String := none
  timeoutSecs : Option Nat := none
  quiet : Bool := false
  noColor : Bool := false
  verbose : Bool := false
  task : Option Task := none
  deriving DecidableEq, Repr

/-- Whether a flag is given on a level. -/
def Given.has (given : Given) (flag : Flag) : Bool :=
  given.flags.contains flag

/-- The task of a command with what is given on its level. -/
def taskOf : Command → Given → Task
  | .interactive, given => .interactive (given.has .reverse)
  | .configure, given => .configure (given.has .showOnly)

/-- The levels together: of a value that both have, that of the command holds. -/
def Arguments.ofLevels : Levels → Arguments
  | (outer, command) =>
    let inner : Given := command.elim {} Prod.snd
    { file := outer.file
      reverse := outer.has .reverse
      endpoint := inner.endpoint.or outer.endpoint
      timeoutSecs := inner.timeout.or outer.timeout
      quiet := outer.has .quiet || inner.has .quiet
      noColor := outer.has .noColor || inner.has .noColor
      verbose := outer.has .verbose || inner.has .verbose
      task := command.map fun (command, given) => taskOf command given }

/-- Reads a command line. -/
def parse (arguments : List String) : Except Stop Arguments :=
  (readLevels {} arguments).map Arguments.ofLevels

end QueryBridge.CommandLine
