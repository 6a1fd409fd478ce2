import QueryBridge.CommandLine.Parse
import QueryBridge.Proofs.Text.Spelling

/-!
# How a command line spells what it asks for

A level of a command line is a list of words in any order: the file, a flag by its long name,
letters behind one dash, or an option with its value in the next argument or behind an equals sign.
`Spells` says that words of the first level, and of the level of a command, say each thing that is
asked for exactly once and nothing else. It knows the names of the flags and options but nothing of
the parser. Everything that can be asked for can be spelled (`Arguments.Sayable.exists_spells`).
-/

set_option autoImplicit false

namespace QueryBridge.CommandLine

/-! ## Names -/

/-- The long name of a flag. -/
def Flag.name : Flag → String
  | .reverse => "reverse"
  | .quiet => "quiet"
  | .noColor => "no-color"
  | .verbose => "verbose"
  | .showOnly => "show"

/-- The letter of a flag, if it has one. -/
def Flag.letter? : Flag → Option Char
  | .reverse => some 'r'
  | .quiet => some 'q'
  | .verbose => some 'v'
  | .noColor | .showOnly => none

/-- Whether a flag may stand on a level. -/
def Flag.isOn : Level → Flag → Bool
  | none, .showOnly => false
  | some .interactive, .showOnly => false
  | some .configure, .reverse => false
  | _, _ => true

/-- The long name of an option. -/
def Setting.name : Setting → String
  | .endpoint => "endpoint"
  | .timeout => "timeout"

/-- The words for a command. -/
def Command.names : Command → List String
  | .interactive => ["interactive", "i"]
  | .configure => ["configure"]

/-! ## Words -/

/-- One thing that is said on a level of a command line. -/
inductive Word where
  | file (name : String)
  /-- A flag by its long name. -/
  | flag (flag : Flag)
  /-- Flags by their letters behind one dash. If an endpoint is given, its letter stands behind
  them and the endpoint is the next argument. -/
  | letters (flags : List Flag) (endpoint : Option String)
  /-- An option by its long name, with its value in the next argument. -/
  | apart (setting : Setting) (value : String)
  /-- An option by its long name, with its value behind an equals sign. -/
  | attached (setting : Setting) (value : String)
  deriving DecidableEq, Repr

namespace Word

/-- The arguments that a word is typed as. -/
def arguments : Word → List String
  | .file name => [name]
  | .flag f => ["--" ++ f.name]
  | .letters flags none => ["-" ++ String.ofList (flags.filterMap Flag.letter?)]
  | .letters flags (some value) =>
    ["-" ++ String.ofList (flags.filterMap Flag.letter? ++ ['e']), value]
  | .apart setting value => ["--" ++ setting.name, value]
  | .attached setting value => ["--" ++ setting.name ++ "=" ++ value]

/-- The file that a word names. -/
def file? : Word → Option String
  | .file name => some name
  | _ => none

/-- The flags that a word raises. -/
def flags : Word → List Flag
  | .flag f => [f]
  | .letters flags _ => flags
  | _ => []

/-- The text that a word gives as endpoint. -/
def endpoint? : Word → Option String
  | .letters _ endpoint => endpoint
  | .apart .endpoint value | .attached .endpoint value => some value
  | _ => none

/-- The text that a word gives as time limit. -/
def timeout? : Word → Option String
  | .apart .timeout value | .attached .timeout value => some value
  | _ => none

end Word

/-- A text that is not taken for an option. -/
def IsOperand (s : String) : Prop :=
  s ≠ "" ∧ s.toList.head? ≠ some '-'

instance (s : String) : Decidable (IsOperand s) :=
  inferInstanceAs (Decidable (_ ∧ _))

/-- A text that an option takes as its value: any text but the empty one as endpoint, and the
spelling of a 64-bit word as time limit. -/
def Setting.Accepts : Setting → String → Prop
  | .endpoint, value => value ≠ ""
  | .timeout, value => ∃ n, Text.Spells value.toList n ∧ n ≤ Text.maxWord

/-- A word may stand on a level as it is typed. Only the first level has a file, whose name stands
for no command. -/
def Word.Fits (level : Level) : Word → Prop
  | .file name => level = none ∧ IsOperand name ∧ name ∉ ["interactive", "i", "configure", "help"]
  | .flag f => f.isOn level = true
  | .letters flags endpoint =>
    (∀ f ∈ flags, f.isOn level = true ∧ f.letter? ≠ none) ∧
      (flags ≠ [] ∨ endpoint ≠ none) ∧ ∀ value ∈ endpoint, IsOperand value
  | .apart setting value => setting.Accepts value ∧ IsOperand value
  | .attached setting value => setting.Accepts value

/-! ## Command lines -/

/-- How often a flag is raised by words. -/
def raised (f : Flag) (words : List Word) : Nat :=
  (words.flatMap Word.flags).count f

/-- The flag that a task is asked for with, and whether it is. -/
def Task.own : Task → Command × Flag × Bool
  | .interactive reverse => (.interactive, .reverse, reverse)
  | .configure showOnly => (.configure, .showOnly, showOnly)

/-- The words of a command and of its level ask for a task. -/
def Task.SpelledBy (task : Task) (name : String) (inner : List Word) : Prop :=
  name ∈ task.own.1.names ∧ raised task.own.2.1 inner = task.own.2.2.toNat ∧
    ∀ word ∈ inner, word.Fits (some task.own.1)

/-- The words of the level of a command, if there is one. -/
def innerWords (command : Option (String × List Word)) : List Word :=
  command.elim [] Prod.snd

/-- Words of the first level, and those of a command and its level, say everything that is asked for
exactly once: the file and the direction of one query on the first level, what is about the service
and the output on either, and the rest on the level of the command. -/
structure Spells (args : Arguments) (outer : List Word) (command : Option (String × List Word)) :
    Prop where
  fits : ∀ word ∈ outer, word.Fits none
  task : Option.Rel (fun task spelling => Task.SpelledBy task spelling.1 spelling.2)
    args.task command
  file : outer.filterMap Word.file? = args.file.toList
  reverse : raised .reverse outer = args.reverse.toNat
  quiet : raised .quiet (outer ++ innerWords command) = args.quiet.toNat
  noColor : raised .noColor (outer ++ innerWords command) = args.noColor.toNat
  verbose : raised .verbose (outer ++ innerWords command) = args.verbose.toNat
  endpoint : (outer ++ innerWords command).filterMap Word.endpoint? = args.endpoint.toList
  timeout : ∃ text : Option String,
    (outer ++ innerWords command).filterMap Word.timeout? = text.toList ∧
      Option.Rel (fun t n => Text.Spells t.toList n) text args.timeoutSecs

/-- The arguments of a command line. -/
def lineOf (outer : List Word) (command : Option (String × List Word)) : List String :=
  outer.flatMap Word.arguments ++
    command.elim [] fun (name, inner) => name :: inner.flatMap Word.arguments

/-! ## What can be spelled -/

/-- What a command line can ask for: a time limit of 64 bits, an endpoint that is not empty, and a
file or a command, where the file is not taken for an option or a command. -/
structure Arguments.Sayable (args : Arguments) : Prop where
  timeout : ∀ n ∈ args.timeoutSecs, n ≤ Text.maxWord
  endpoint : args.endpoint ≠ some ""
  file : ∀ name ∈ args.file, IsOperand name ∧ name ∉ ["interactive", "i", "configure", "help"]
  alone : args.task = none ∨ args.file = none

/-- The words that raise a flag that is asked for. -/
def flagWords (f : Flag) (wanted : Bool) : List Word :=
  if wanted then [.flag f] else []

/-- One spelling of the first level. -/
def plainWords (args : Arguments) : List Word :=
  args.file.toList.map Word.file ++ flagWords .reverse args.reverse ++
    flagWords .quiet args.quiet ++ flagWords .noColor args.noColor ++
    flagWords .verbose args.verbose ++ args.endpoint.toList.map (Word.attached .endpoint) ++
    args.timeoutSecs.toList.map fun n => .attached .timeout (String.ofList (Text.decimal n))

/-- One spelling of a command and its level. -/
def plainCommand : Task → String × List Word
  | .interactive reverse => ("interactive", flagWords .reverse reverse)
  | .configure showOnly => ("configure", flagWords .showOnly showOnly)

section Plain

variable {args : Arguments}

theorem raised_append (f : Flag) (first later : List Word) :
    raised f (first ++ later) = raised f first + raised f later := by
  rw [raised, List.flatMap_append, List.count_append, raised, raised]

theorem raised_flagWords (f g : Flag) (wanted : Bool) :
    raised f (flagWords g wanted) = if f = g then wanted.toNat else 0 := by
  cases wanted <;> cases f <;> cases g <;> rfl

theorem raised_map {α : Type} {f : Flag} {word : α → Word} (h : ∀ x, (word x).flags = [])
    (xs : List α) : raised f (xs.map word) = 0 := by
  have hnone : (xs.map word).flatMap Word.flags = [] := by simp [List.flatMap_map, h]
  rw [raised, hnone]
  rfl

theorem filterMap_flagWords {α : Type} {read : Word → Option α} (f : Flag) (wanted : Bool)
    (h : read (.flag f) = none) : (flagWords f wanted).filterMap read = [] := by
  cases wanted
  · rfl
  · exact List.filterMap_cons_none h

theorem fits_of_mem_flagWords {level : Level} {f : Flag} {wanted : Bool} {word : Word}
    (hf : f.isOn level = true) (h : word ∈ flagWords f wanted) : word.Fits level := by
  cases wanted with
  | false => exact absurd h List.not_mem_nil
  | true =>
      cases List.mem_singleton.1 h
      exact hf

/-- The plain words raise each flag that is asked for once, and no other. -/
theorem raised_plainWords (f : Flag) (args : Arguments) :
    raised f (plainWords args) =
      (if f = .reverse then args.reverse.toNat else 0) +
        (if f = .quiet then args.quiet.toNat else 0) +
        (if f = .noColor then args.noColor.toNat else 0) +
        (if f = .verbose then args.verbose.toNat else 0) := by
  have hfile : raised f (args.file.toList.map Word.file) = 0 := raised_map (fun _ => rfl) _
  have hendpoint : raised f (args.endpoint.toList.map (Word.attached .endpoint)) = 0 :=
    raised_map (fun _ => rfl) _
  have htimeout : raised f (args.timeoutSecs.toList.map fun n =>
      .attached .timeout (String.ofList (Text.decimal n))) = 0 := raised_map (fun _ => rfl) _
  simp only [plainWords, raised_append, raised_flagWords, hfile, hendpoint, htimeout]
  omega

/-- The plain words fit the first level. -/
theorem fits_plainWords (h : args.Sayable) : ∀ word ∈ plainWords args, word.Fits none := by
  intro word hword
  simp only [plainWords, List.mem_append, or_assoc] at hword
  rcases hword with hfile | hflag | hflag | hflag | hflag | hendpoint | htimeout
  · obtain ⟨name, hname, rfl⟩ := List.mem_map.1 hfile
    obtain ⟨hoperand, hverb⟩ := h.file name (Option.mem_toList.1 hname)
    exact ⟨rfl, hoperand, hverb⟩
  · exact fits_of_mem_flagWords rfl hflag
  · exact fits_of_mem_flagWords rfl hflag
  · exact fits_of_mem_flagWords rfl hflag
  · exact fits_of_mem_flagWords rfl hflag
  · obtain ⟨value, hvalue, rfl⟩ := List.mem_map.1 hendpoint
    intro hempty
    subst hempty
    exact h.endpoint (Option.mem_toList.1 hvalue)
  · obtain ⟨n, hn, rfl⟩ := List.mem_map.1 htimeout
    refine ⟨n, ?_, h.timeout n (Option.mem_toList.1 hn)⟩
    rw [String.toList_ofList]
    exact Text.spells_decimal n

theorem flags_plainCommand (task : Task) (f : Flag) :
    raised f (plainCommand task).2 = if f = task.own.2.1 then task.own.2.2.toNat else 0 := by
  cases task <;> exact raised_flagWords _ _ _

/-- What the level of a plain command says is nothing but its own flag. -/
theorem filterMap_plainCommand {α : Type} {read : Word → Option α}
    (h : ∀ f, read (.flag f) = none) (task : Task) :
    (plainCommand task).2.filterMap read = [] := by
  cases task <;> exact filterMap_flagWords _ _ (h _)

/-- A command can be spelled by its first name and the plain word for its flag. -/
theorem spelledBy_plainCommand (task : Task) :
    task.SpelledBy (plainCommand task).1 (plainCommand task).2 := by
  refine ⟨?_, ?_, ?_⟩
  · cases task <;> exact List.mem_cons_self
  · rw [flags_plainCommand, if_pos rfl]
  · cases task with
    | interactive reverse => exact fun _ => fits_of_mem_flagWords rfl
    | configure showOnly => exact fun _ => fits_of_mem_flagWords rfl

theorem filterMap_plainWords {α : Type} {read : Word → Option α}
    (h : ∀ f, read (.flag f) = none) (args : Arguments) :
    (plainWords args).filterMap read =
      args.file.toList.filterMap (fun name => read (.file name)) ++
        args.endpoint.toList.filterMap (fun value => read (.attached .endpoint value)) ++
        args.timeoutSecs.toList.filterMap fun n =>
          read (.attached .timeout (String.ofList (Text.decimal n))) := by
  have hflag (f : Flag) (wanted : Bool) : (flagWords f wanted).filterMap read = [] :=
    filterMap_flagWords f wanted (h f)
  simp only [plainWords, List.filterMap_append, hflag, List.append_nil, List.filterMap_map]
  rfl

/-- Everything that can be asked for can be spelled. -/
theorem Arguments.Sayable.exists_spells (h : args.Sayable) :
    ∃ outer command, Spells args outer command := by
  refine ⟨plainWords args, args.task.map plainCommand, ?_⟩
  -- On the level of the command stands its own flag and nothing else.
  have hraised (f : Flag) (hf : f = .quiet ∨ f = .noColor ∨ f = .verbose) :
      raised f (innerWords (args.task.map plainCommand)) = 0 := by
    cases args.task with
    | none => rfl
    | some task =>
        rw [Option.map_some, innerWords, Option.elim_some, flags_plainCommand, if_neg]
        rcases hf with rfl | rfl | rfl <;> cases task <;> exact Flag.noConfusion
  have hread {α : Type} {read : Word → Option α} (hr : ∀ f, read (.flag f) = none) :
      (innerWords (args.task.map plainCommand)).filterMap read = [] := by
    cases args.task with
    | none => rfl
    | some task => exact filterMap_plainCommand hr task
  constructor
  case fits => exact fits_plainWords h
  case task =>
    cases args.task with
    | none => exact .none
    | some task => exact .some (spelledBy_plainCommand task)
  case file =>
    rw [filterMap_plainWords fun _ => rfl]
    cases args.file <;> cases args.endpoint <;> cases args.timeoutSecs <;> rfl
  case reverse => simp [raised_plainWords]
  case quiet => simp [raised_append, raised_plainWords, hraised]
  case noColor => simp [raised_append, raised_plainWords, hraised]
  case verbose => simp [raised_append, raised_plainWords, hraised]
  case endpoint =>
    rw [List.filterMap_append, filterMap_plainWords fun _ => rfl, hread fun _ => rfl]
    cases args.file <;> cases args.endpoint <;> cases args.timeoutSecs <;> rfl
  case timeout =>
    refine ⟨args.timeoutSecs.map fun n => String.ofList (Text.decimal n), ?_, ?_⟩
    · rw [List.filterMap_append, filterMap_plainWords fun _ => rfl, hread fun _ => rfl]
      cases args.file <;> cases args.endpoint <;> cases args.timeoutSecs <;> rfl
    · cases args.timeoutSecs with
      | none => exact .none
      | some n =>
          refine .some ?_
          rw [String.toList_ofList]
          exact Text.spells_decimal n

end Plain

end QueryBridge.CommandLine
