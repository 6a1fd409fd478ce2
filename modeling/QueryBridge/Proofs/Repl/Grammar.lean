import QueryBridge.Command
import QueryBridge.Proofs.Text.Spelling

/-!
# The grammar of a line

A line is white space, a query, or a command, each with white space around it. A query is any other
text that does not begin with a slash. Behind a slash stands a word, up to the first white space,
and then the text that the word is about. `Input.Means` says this of a line from its parts, without
a word on how the parts are found; what a word stands for is `Command.Names`.

What a line is read as is exactly what it means (`Input.parse_eq_iff_means`), so each line has one
meaning. `Input.write` gives a line for each input. An input that some line is read as is read back
from the line written for it, and these inputs are told by their texts and numbers
(`Input.Typable`, `Input.parse_follows_grammar`).
-/

set_option autoImplicit false

namespace QueryBridge

/-! ## Command words -/

/-- What is typed as the number of an entry is what spells a positive number of 64 bits. -/
theorem entryNumber?_eq_some_iff {s : List Char} {n : Nat} :
    entryNumber? s = some n ↔ Text.Spells s n ∧ 0 < n ∧ n ≤ Text.maxWord := by
  rw [entryNumber?, Option.filter_eq_some_iff, Text.parseWord?_eq_some_iff, decide_eq_true_iff,
    and_assoc, and_comm (a := n ≤ Text.maxWord)]

/-- An argument gives no number exactly where every positive number that it spells is too large. -/
theorem entryNumber?_eq_none_iff {s : List Char} :
    entryNumber? s = none ↔ ∀ n, Text.Spells s n → 0 < n → Text.maxWord < n := by
  simp only [Option.eq_none_iff_forall_ne_some, ne_eq, entryNumber?_eq_some_iff, not_and,
    Nat.not_le]

namespace Command

/-- The words of the commands: one for each row of the table of commands, and two more to leave. -/
def words : List String :=
  ["sql", "mongo", "switch", "draft", "submit", "history", "load", "clear", "copy", "status",
    "config", "help", "quit", "exit", "q"]

/-- What a command word stands for, with the text behind it. Most words do not look at that text. -/
inductive Names : String → List Char → Command → Prop
  | sql (rest : List Char) : Names "sql" rest (.direction .sqlToMongo)
  | mongo (rest : List Char) : Names "mongo" rest (.direction .mongoToSql)
  | switch (rest : List Char) : Names "switch" rest .switch
  | draft (rest : List Char) : Names "draft" rest (.draft (String.ofList rest))
  | submit (rest : List Char) : Names "submit" rest .submit
  | history (rest : List Char) : Names "history" rest .history
  /-- The text spells a positive number of 64 bits. -/
  | load {rest : List Char} {n : Nat} (hn : Text.Spells rest n) (hpos : 0 < n)
      (hword : n ≤ Text.maxWord) : Names "load" rest (.load (some n))
  /-- The text spells no such number. -/
  | loadNothing {rest : List Char}
      (hnone : ∀ n, Text.Spells rest n → 0 < n → Text.maxWord < n) : Names "load" rest (.load none)
  | clear (rest : List Char) : Names "clear" rest .clear
  | copy (rest : List Char) : Names "copy" rest .copy
  | status (rest : List Char) : Names "status" rest .status
  | config (rest : List Char) : Names "config" rest .config
  | help (rest : List Char) : Names "help" rest .help
  | quit (rest : List Char) : Names "quit" rest .quit
  | exit (rest : List Char) : Names "exit" rest .quit
  | q (rest : List Char) : Names "q" rest .quit

/-- The word that loads names a command for every argument, with the number that the argument
gives. -/
theorem names_load (rest : List Char) : Names "load" rest (.load (entryNumber? rest)) := by
  cases h : entryNumber? rest with
  | none => exact .loadNothing (entryNumber?_eq_none_iff.1 h)
  | some n =>
      obtain ⟨hn, hpos, hword⟩ := entryNumber?_eq_some_iff.1 h
      exact .load hn hpos hword

/-- A word is read as the command that it stands for. -/
theorem ofWord?_eq_some_iff {word rest : List Char} {command : Command} :
    ofWord? word rest = some command ↔ Names (String.ofList word) rest command := by
  unfold ofWord?
  generalize String.ofList word = w
  constructor
  · intro h
    split at h <;> cases h
    all_goals first
      | exact names_load rest
      | constructor
  · intro h
    cases h with
    | load hn hpos hword =>
        exact congrArg (some ∘ Command.load) (entryNumber?_eq_some_iff.2 ⟨hn, hpos, hword⟩)
    | loadNothing hnone =>
        exact congrArg (some ∘ Command.load) (entryNumber?_eq_none_iff.2 hnone)
    | _ => rfl

theorem ofWord?_eq_none_iff {word rest : List Char} :
    ofWord? word rest = none ↔ String.ofList word ∉ words := by
  unfold ofWord?
  generalize String.ofList word = w
  split <;> simp_all [words]

/-! ## Behind a slash -/

/-- What the text behind a slash means. It begins with a word without white space, and the text that
the word is about, if there is any, stands apart from it. Where the word is no command word, the
whole text is kept as it is. -/
inductive Means : List Char → Command → Prop
  | listed {word rest : List Char} {command : Command}
      (hword : ∀ c ∈ word, Text.isSpace c = false) (hrest : ∀ c ∈ rest.head?, Text.isSpace c = true)
      (hnames : Names (String.ofList word) (Text.trim rest) command) : Means (word ++ rest) command
  | unlisted {word rest : List Char}
      (hword : ∀ c ∈ word, Text.isSpace c = false) (hrest : ∀ c ∈ rest.head?, Text.isSpace c = true)
      (hnone : String.ofList word ∉ words) :
      Means (word ++ rest) (.unknown (String.ofList (word ++ rest)))

section Behind

variable {s word rest : List Char} {command : Command}

/-- A word ends where a blank follows it, so it can be split off. -/
theorem takeWhile_dropWhile_of_word (hword : ∀ c ∈ word, Text.isSpace c = false)
    (hrest : ∀ c ∈ rest.head?, Text.isSpace c = true) :
    (word ++ rest).takeWhile (!Text.isSpace ·) = word ∧
      (word ++ rest).dropWhile (!Text.isSpace ·) = rest :=
  Text.span_append (fun c hc => by rw [hword c hc]; rfl) fun c hc => by rw [hrest c hc]; rfl

/-- A command word ends at the first white space, and the text behind it is trimmed. -/
theorem parse_append (hword : ∀ c ∈ word, Text.isSpace c = false)
    (hrest : ∀ c ∈ rest.head?, Text.isSpace c = true) :
    parse (word ++ rest) =
      (ofWord? word (Text.trim rest)).getD (.unknown (String.ofList (word ++ rest))) := by
  obtain ⟨htake, hdrop⟩ := takeWhile_dropWhile_of_word hword hrest
  have htail : Text.trim rest.tail = Text.trim rest := by
    cases rest with
    | nil => rfl
    | cons c rest =>
        have hc : Text.isBlank [c] = true := by simp [Text.isBlank, hrest c rfl]
        exact (Text.trim_of_isBlank_append hc).symm
  rw [parse, Text.splitAtSpace, htake, hdrop]
  simp only [htail]

/-- Every text is a word and what stands behind it. -/
theorem exists_word (s : List Char) :
    ∃ word rest, s = word ++ rest ∧ (∀ c ∈ word, Text.isSpace c = false) ∧
      ∀ c ∈ rest.head?, Text.isSpace c = true := by
  refine ⟨s.takeWhile (!Text.isSpace ·), s.dropWhile (!Text.isSpace ·),
    List.takeWhile_append_dropWhile.symm, Text.not_isSpace_of_all List.all_takeWhile, ?_⟩
  intro c hc
  have hstop := List.head?_dropWhile_not (!Text.isSpace ·) s
  rw [hc] at hstop
  simpa using hstop

/-- What the parser gives for the text behind a slash is what the grammar says that it means. -/
theorem parse_eq_iff_means : parse s = command ↔ Means s command := by
  constructor
  · rintro rfl
    obtain ⟨word, rest, rfl, hword, hrest⟩ := exists_word s
    rw [parse_append hword hrest]
    cases h : ofWord? word (Text.trim rest) with
    | none => exact .unlisted hword hrest (ofWord?_eq_none_iff.1 h)
    | some command => exact .listed hword hrest (ofWord?_eq_some_iff.1 h)
  · intro h
    cases h with
    | listed hword hrest hnames => rw [parse_append hword hrest, ofWord?_eq_some_iff.2 hnames]; rfl
    | unlisted hword hrest hnone => rw [parse_append hword hrest, ofWord?_eq_none_iff.2 hnone]; rfl

end Behind

end Command

/-! ## Lines -/

/-- What a line means. White space around a query or a command counts for nothing. -/
inductive Input.Means : List Char → Input → Prop
  | empty {line : List Char} (hblank : Text.isBlank line = true) : Means line .empty
  | text {before query after : List Char} (hbefore : Text.isBlank before = true)
      (hafter : Text.isBlank after = true) (htrimmed : Text.Trimmed query) (hne : query ≠ [])
      (hslash : query.head? ≠ some '/') :
      Means (before ++ query ++ after) (.text (String.ofList query))
  | command {before behind after : List Char} {command : Command}
      (hbefore : Text.isBlank before = true) (hafter : Text.isBlank after = true)
      (htrimmed : Text.Trimmed ('/' :: behind)) (hmeans : command.Means behind) :
      Means (before ++ '/' :: behind ++ after) (.command command)

namespace Input

/-- White space around a line counts for nothing. -/
theorem parse_of_padded {line : String} {before s after : List Char}
    (hline : line.toList = before ++ s ++ after) (hbefore : Text.isBlank before = true)
    (hafter : Text.isBlank after = true) (htrimmed : Text.Trimmed s) :
    parse line = ofTrimmed s := by
  rw [parse, hline, htrimmed.trim_between hbefore hafter]

theorem ofTrimmed_of_ne_slash {query : List Char} (hne : query ≠ [])
    (hslash : query.head? ≠ some '/') : ofTrimmed query = .text (String.ofList query) := by
  unfold ofTrimmed
  split
  · exact absurd rfl hne
  · exact absurd rfl hslash
  · rfl

/-- A line is read as what it means, and as nothing else. -/
theorem parse_eq_iff_means {line : String} {input : Input} :
    parse line = input ↔ Means line.toList input := by
  constructor
  · rintro rfl
    obtain ⟨before, after, hline, hbefore, hafter⟩ := Text.exists_trim line.toList
    have htrimmed := Text.trimmed_trim line.toList
    rw [parse_of_padded hline hbefore hafter htrimmed]
    cases hs : Text.trim line.toList with
    | nil => exact .empty (Text.trim_eq_nil_iff.1 hs)
    | cons c rest =>
        rw [hs] at hline htrimmed
        by_cases hc : c = '/'
        · subst hc
          rw [hline]
          exact .command hbefore hafter htrimmed (Command.parse_eq_iff_means.1 rfl)
        · have hslash : (c :: rest).head? ≠ some '/' := fun h => hc (Option.some_inj.1 h)
          rw [ofTrimmed_of_ne_slash (List.cons_ne_nil c rest) hslash, hline]
          exact .text hbefore hafter htrimmed (List.cons_ne_nil c rest) hslash
  · intro h
    generalize hline : line.toList = s at h
    cases h with
    | empty hblank => rw [parse, hline, Text.trim_eq_nil_iff.2 hblank]; rfl
    | text hbefore hafter htrimmed hne hslash =>
        rw [parse_of_padded hline hbefore hafter htrimmed, ofTrimmed_of_ne_slash hne hslash]
    | command hbefore hafter htrimmed hmeans =>
        rw [parse_of_padded hline hbefore hafter htrimmed]
        exact congrArg Input.command (Command.parse_eq_iff_means.2 hmeans)

theorem parse_eq_empty_iff {line : String} :
    parse line = .empty ↔ Text.isBlank line.toList = true := by
  rw [parse_eq_iff_means]
  generalize line.toList = s
  refine ⟨?_, .empty⟩
  intro h
  cases h with
  | empty hblank => exact hblank

/-- A line is a query exactly where the query is the trimmed line, with no slash in front. -/
theorem parse_eq_text_iff {line query : String} :
    parse line = .text query ↔
      query.toList = Text.trim line.toList ∧ query ≠ "" ∧ query.toList.head? ≠ some '/' := by
  constructor
  · rw [parse_eq_iff_means]
    generalize line.toList = s
    intro h
    cases h with
    | text hbefore hafter htrimmed hne hslash =>
        rw [htrimmed.trim_between hbefore hafter, String.toList_ofList]
        exact ⟨rfl, by simpa using hne, hslash⟩
  · rintro ⟨htrim, hne, hslash⟩
    have hfull : query.toList ≠ [] := by simpa using hne
    rw [parse, ← htrim, ofTrimmed_of_ne_slash hfull hslash, String.ofList_toList]

/-- A line is a command exactly where a slash opens the trimmed line and the command is what comes
behind it. -/
theorem parse_eq_command_iff {line : String} {command : Command} :
    parse line = .command command ↔
      ∃ behind, Text.trim line.toList = '/' :: behind ∧ command.Means behind := by
  constructor
  · rw [parse_eq_iff_means]
    generalize line.toList = s
    intro h
    cases h with
    | command hbefore hafter htrimmed hmeans =>
        rw [htrimmed.trim_between hbefore hafter]
        exact ⟨_, rfl, hmeans⟩
  · rintro ⟨behind, htrim, hmeans⟩
    rw [parse, htrim]
    exact congrArg Input.command (Command.parse_eq_iff_means.2 hmeans)

end Input

/-! ## Lines that are written -/

/-- What is written behind the slash for a command. -/
def Command.write : Command → List Char
  | .direction .sqlToMongo => "sql".toList
  | .direction .mongoToSql => "mongo".toList
  | .switch => "switch".toList
  | .draft text => "draft ".toList ++ text.toList
  | .submit => "submit".toList
  | .history => "history".toList
  | .load (some n) => "load ".toList ++ Text.decimal n
  | .load none => "load".toList
  | .clear => "clear".toList
  | .copy => "copy".toList
  | .status => "status".toList
  | .config => "config".toList
  | .help => "help".toList
  | .quit => "quit".toList
  | .unknown text => text.toList

/-- The line that is written for an input. -/
def Input.write : Input → String
  | .empty => ""
  | .text query => query
  | .command asked => String.ofList ('/' :: asked.write)

/-- The commands that lines are read as: texts are trimmed, numbers are positive and have 64 bits,
and a command that is not known does not begin with a command word. -/
def Command.Typable : Command → Prop
  | .draft text => Text.Trimmed text.toList
  | .load (some n) => 0 < n ∧ n ≤ Text.maxWord
  | .unknown text => Text.Trimmed ('/' :: text.toList) ∧
      String.ofList (text.toList.takeWhile (!Text.isSpace ·)) ∉ words
  | _ => True

/-- The inputs that lines are read as. -/
def Input.Typable : Input → Prop
  | .empty => True
  | .text query => Text.Trimmed query.toList ∧ query ≠ "" ∧ query.toList.head? ≠ some '/'
  | .command asked => asked.Typable

theorem Command.Names.typable {word : String} {argument : List Char} {command : Command}
    (h : Names word argument command) (hargument : Text.Trimmed argument) : command.Typable := by
  cases h with
  | draft =>
      rw [Command.Typable, String.toList_ofList]
      exact hargument
  | load hn hpos hword => exact ⟨hpos, hword⟩
  | _ => trivial

/-- A command is unknown exactly where its first word is, and it keeps all of its text. -/
theorem Command.means_unknown_iff {behind : List Char} {text : String} :
    Means behind (.unknown text) ↔
      behind = text.toList ∧ String.ofList (behind.takeWhile (!Text.isSpace ·)) ∉ words := by
  constructor
  · intro h
    cases h with
    | @listed word rest _ hword hrest hnames =>
        generalize String.ofList word = w at hnames
        cases hnames
    | unlisted hword hrest hnone =>
        rw [(takeWhile_dropWhile_of_word hword hrest).1, String.toList_ofList]
        exact ⟨rfl, hnone⟩
  · rintro ⟨rfl, hnone⟩
    rw [← parse_eq_iff_means]
    obtain ⟨word, rest, htext, hword, hrest⟩ := exists_word text.toList
    rw [htext, (takeWhile_dropWhile_of_word hword hrest).1] at hnone
    rw [htext, parse_append hword hrest, ofWord?_eq_none_iff.2 hnone, ← htext, String.ofList_toList]
    rfl

/-- A number is loaded exactly where the argument spells it, with blanks around it. -/
theorem Command.means_load_iff {behind : List Char} {n : Nat} :
    Means behind (.load (some n)) ↔
      ∃ rest, behind = "load".toList ++ rest ∧ (∀ c ∈ rest.head?, Text.isSpace c = true) ∧
        Text.Spells (Text.trim rest) n ∧ 0 < n ∧ n ≤ Text.maxWord := by
  constructor
  · intro h
    cases h with
    | @listed word rest _ hword hrest hnames =>
        generalize hload : String.ofList word = w at hnames
        cases hnames with
        | load hn hpos hmax =>
            rw [← String.toList_ofList (l := word), hload]
            exact ⟨rest, rfl, hrest, hn, hpos, hmax⟩
  · rintro ⟨rest, rfl, hrest, hn, hpos, hmax⟩
    exact .listed (Text.not_isSpace_of_all (by decide)) hrest
      (String.ofList_toList.symm ▸ .load hn hpos hmax)

/-- The words that end a session. -/
def Command.leavingWords : List String := ["quit", "exit", "q"]

/-- The session is left exactly by the words for leaving, whatever comes behind them. -/
theorem Command.means_quit_iff {behind : List Char} :
    Means behind .quit ↔ ∃ word rest, behind = word.toList ++ rest ∧
      (∀ c ∈ rest.head?, Text.isSpace c = true) ∧ word ∈ leavingWords := by
  constructor
  · intro h
    cases h with
    | @listed word rest _ hword hrest hnames =>
        refine ⟨String.ofList word, rest, by rw [String.toList_ofList], hrest, ?_⟩
        generalize String.ofList word = w at hnames
        cases hnames <;> decide
  · rintro ⟨word, rest, rfl, hrest, hleaving⟩
    have hspaces : ∀ w ∈ leavingWords, w.toList.all (!Text.isSpace ·) = true := by decide
    have hnames : Names word (Text.trim rest) .quit := by
      simp only [leavingWords, List.mem_cons, List.not_mem_nil, or_false] at hleaving
      rcases hleaving with rfl | rfl | rfl
      · exact .quit _
      · exact .exit _
      · exact .q _
    exact .listed (Text.not_isSpace_of_all (hspaces word hleaving)) hrest
      (String.ofList_toList.symm ▸ hnames)

/-- A command word that takes no text stands for the same command whatever stands behind it. -/
theorem Command.exists_names_of_mem {word : String} (h : word ∈ words) (hdraft : word ≠ "draft")
    (hload : word ≠ "load") : ∃ command, ∀ argument, Names word argument command := by
  simp only [words, List.mem_cons, List.not_mem_nil, or_false, hdraft, hload, false_or] at h
  rcases h with rfl | rfl | rfl | rfl | rfl | rfl | rfl | rfl | rfl | rfl | rfl | rfl | rfl
  · exact ⟨_, .sql⟩
  · exact ⟨_, .mongo⟩
  · exact ⟨_, .switch⟩
  · exact ⟨_, .submit⟩
  · exact ⟨_, .history⟩
  · exact ⟨_, .clear⟩
  · exact ⟨_, .copy⟩
  · exact ⟨_, .status⟩
  · exact ⟨_, .config⟩
  · exact ⟨_, .help⟩
  · exact ⟨_, .quit⟩
  · exact ⟨_, .exit⟩
  · exact ⟨_, .q⟩

/-- What trimmed text behind a slash means can be typed. -/
theorem Command.Means.typable {behind : List Char} {command : Command} (h : command.Means behind)
    (htrimmed : Text.Trimmed ('/' :: behind)) : command.Typable := by
  cases command with
  | unknown text =>
      obtain ⟨rfl, hnone⟩ := means_unknown_iff.1 h
      exact ⟨htrimmed, hnone⟩
  | _ =>
      cases h with
      | listed hword hrest hnames => exact hnames.typable (Text.trimmed_trim _)

namespace Input

/-- Whatever line is read, what it is read as is typable. -/
theorem typable_parse (line : String) : (parse line).Typable := by
  have htrimmed := Text.trimmed_trim line.toList
  cases h : parse line with
  | empty => trivial
  | text query =>
      obtain ⟨hquery, hne, hslash⟩ := parse_eq_text_iff.1 h
      exact ⟨hquery ▸ htrimmed, hne, hslash⟩
  | command command =>
      obtain ⟨behind, htrim, hmeans⟩ := parse_eq_command_iff.1 h
      exact hmeans.typable (htrim ▸ htrimmed)

/-- A command word, a gap, and the text that the word is about. -/
theorem means_command {word : String} {argument : List Char} {command : Command}
    (before gap after : List Char) (hbefore : Text.isBlank before = true)
    (hgap : Text.isBlank gap = true) (hafter : Text.isBlank after = true)
    (hapart : gap = [] → argument = []) (hargument : Text.Trimmed argument)
    (hnames : Command.Names word argument command) :
    Means (before ++ '/' :: (word.toList ++ gap ++ argument) ++ after) (.command command) := by
  have hword : ∀ c ∈ word.toList, Text.isSpace c = false :=
    Text.not_isSpace_of_all (by cases hnames <;> decide)
  rw [← String.ofList_toList (s := word)] at hnames
  by_cases hnone : argument = []
  · -- The gap belongs to the white space behind the command.
    subst hnone
    have hbehind : Text.isBlank (gap ++ after) = true := by
      rw [Text.isBlank_append, hgap, hafter]
      rfl
    have htrimmed : Text.Trimmed ('/' :: (word.toList ++ [])) := by
      rw [List.append_nil]
      exact Text.trimmed_of_forall (List.forall_mem_cons.2 ⟨by decide, hword⟩)
    have hline : before ++ '/' :: (word.toList ++ gap ++ []) ++ after =
        before ++ '/' :: (word.toList ++ []) ++ (gap ++ after) := by simp
    rw [hline]
    exact .command hbefore hbehind htrimmed (.listed hword (by simp) hnames)
  · have hgapHead : ∀ c ∈ (gap ++ argument).head?, Text.isSpace c = true := by
      cases gap with
      | nil => exact absurd (hapart rfl) hnone
      | cons c gap => exact Text.isSpace_of_mem_head? (Text.isBlank_iff.1 hgap c List.mem_cons_self)
    have htrimmed : Text.Trimmed ('/' :: (word.toList ++ gap ++ argument)) :=
      Text.trimmed_cons_append (by decide) _ hnone hargument
    refine .command hbefore hafter htrimmed ?_
    rw [List.append_assoc]
    refine .listed hword hgapHead ?_
    rwa [Text.trim_of_isBlank_append hgap, hargument.trim_eq]

section Written

variable {word : String} {argument : List Char} {command : Command}

theorem means_word (hnames : Command.Names word [] command) :
    Means ('/' :: word.toList) (.command command) := by
  have h := means_command [] [] [] rfl rfl rfl (fun _ => rfl) (Text.trimmed_of_forall (by simp))
    hnames
  simpa using h

theorem means_word_append (hargument : Text.Trimmed argument)
    (hnames : Command.Names word argument command) :
    Means ('/' :: (word.toList ++ ' ' :: argument)) (.command command) := by
  have h := means_command [] [' '] [] rfl rfl rfl (by simp) hargument hnames
  simpa using h

/-- The line that is written for an input means it. -/
theorem means_write {input : Input} (h : input.Typable) : Means input.write.toList input := by
  cases input with
  | empty => exact .empty (by decide)
  | text query =>
      obtain ⟨htrimmed, hne, hslash⟩ := h
      have hmeans : Means ([] ++ query.toList ++ []) _ :=
        .text rfl rfl htrimmed (by simpa using hne) hslash
      rwa [List.append_nil, String.ofList_toList] at hmeans
  | command command =>
      rw [write, String.toList_ofList]
      -- The word that is written for a command names it.
      cases command with
      | direction d =>
          cases d with
          | sqlToMongo => exact means_word (.sql [])
          | mongoToSql => exact means_word (.mongo [])
      | draft text =>
          have hnames := Command.Names.draft text.toList
          rw [String.ofList_toList] at hnames
          exact means_word_append h hnames
      | load number =>
          cases number with
          | none => exact means_word (Command.names_load [])
          | some n =>
              have htrimmed : Text.Trimmed (Text.decimal n) := Text.trimmed_of_forall fun c hc =>
                Text.isSpace_of_isDigit (List.all_eq_true.1 (Text.all_isDigit_decimal n) c hc)
              exact means_word_append htrimmed (.load (Text.spells_decimal n) h.1 h.2)
      | unknown text =>
          have hmeans : Means ([] ++ '/' :: text.toList ++ []) _ :=
            .command rfl rfl h.1 (Command.means_unknown_iff.2 ⟨rfl, h.2⟩)
          rwa [List.append_nil] at hmeans
      | switch => exact means_word (.switch [])
      | submit => exact means_word (.submit [])
      | history => exact means_word (.history [])
      | clear => exact means_word (.clear [])
      | copy => exact means_word (.copy [])
      | status => exact means_word (.status [])
      | config => exact means_word (.config [])
      | help => exact means_word (.help [])
      | quit => exact means_word (.quit [])

end Written

/-- An input is read back from the line written for it if it can be typed at all. -/
theorem parse_write_iff {input : Input} : parse input.write = input ↔ input.Typable :=
  ⟨fun h => h ▸ typable_parse input.write, fun h => parse_eq_iff_means.2 (means_write h)⟩

/-- A command word means its command with any text behind it that stands apart from it. -/
theorem means_of_names {word : String} {rest : List Char} {command : Command}
    (hrest : ∀ c ∈ rest.head?, Text.isSpace c = true)
    (hnames : Command.Names word (Text.trim rest) command) :
    Means ('/' :: (word.toList ++ rest)) (.command command) := by
  obtain ⟨gap, after, hsplit, hgap, hafter⟩ := Text.exists_trim rest
  have htrimmed := Text.trimmed_trim rest
  have hapart : gap = [] → Text.trim rest = [] := by
    -- Without a gap, what stands there would begin with the white space behind the word.
    rintro rfl
    cases htrim : Text.trim rest with
    | nil => rfl
    | cons c argument =>
        rw [htrim] at hsplit htrimmed
        have hspace := hrest c (by rw [hsplit]; rfl)
        rw [htrimmed.1 c rfl] at hspace
        cases hspace
  have hmeans := means_command [] gap after rfl hgap hafter hapart htrimmed hnames
  simpa [← hsplit] using hmeans

/-- What stands behind a command word that takes no text counts for nothing. -/
theorem parse_word_append {word : String} {rest : List Char} (h : word ∈ Command.words)
    (hdraft : word ≠ "draft") (hload : word ≠ "load")
    (hrest : ∀ c ∈ rest.head?, Text.isSpace c = true) :
    parse (String.ofList ('/' :: (word.toList ++ rest))) =
      parse (String.ofList ('/' :: word.toList)) := by
  obtain ⟨command, hnames⟩ := Command.exists_names_of_mem h hdraft hload
  have hbare : parse (String.ofList ('/' :: word.toList)) = .command command := by
    rw [parse_eq_iff_means, String.toList_ofList]
    exact means_word (hnames [])
  have hlong : parse (String.ofList ('/' :: (word.toList ++ rest))) = .command command := by
    rw [parse_eq_iff_means, String.toList_ofList]
    exact means_of_names hrest (hnames _)
  rw [hlong, hbare]

/-- What is read behind a slash depends on the first word there: a command word stands for its
command, and in front of anything else the whole text is kept. -/
theorem parse_eq_command_iff_of_word {line : String} {word rest : List Char}
    (htrim : Text.trim line.toList = '/' :: (word ++ rest))
    (hword : ∀ c ∈ word, Text.isSpace c = false) (hrest : ∀ c ∈ rest.head?, Text.isSpace c = true)
    (command : Command) :
    parse line = .command command ↔
      if String.ofList word ∈ Command.words then
        Command.Names (String.ofList word) (Text.trim rest) command
      else command = .unknown (String.ofList (word ++ rest)) := by
  have hline : parse line = .command (Command.parse (word ++ rest)) := by
    rw [parse, htrim]
    rfl
  rw [hline, Input.command.injEq, Command.parse_append hword hrest]
  split
  · rename_i hlisted
    obtain ⟨known, hknown⟩ := Option.ne_none_iff_exists'.1
      fun hnone => Command.ofWord?_eq_none_iff.1 hnone hlisted
    rw [← Command.ofWord?_eq_some_iff, hknown, Option.getD_some, Option.some_inj]
  · rename_i hnone
    rw [Command.ofWord?_eq_none_iff.2 hnone, Option.getD_none, eq_comm]

/-- A line is read as what the grammar says that it means. White space around it counts for nothing,
it is empty if it is white space, and a text if what is left of it begins with no slash; behind a
slash, the first word decides, up to white space of any kind.

What a line is read as is read back from the line written for it, and so is every input whose texts
are trimmed and whose numbers are positive and of 64 bits; no other input can come out of a line. -/
theorem parse_follows_grammar (line : String) :
    (∀ input, parse line = input ↔ Means line.toList input) ∧
    (∀ before after : String, Text.isBlank before.toList = true → Text.isBlank after.toList = true →
      parse (before ++ line ++ after) = parse line) ∧
    (parse line = .empty ↔ Text.isBlank line.toList = true) ∧
    (∀ query, parse line = .text query ↔
      query.toList = Text.trim line.toList ∧ query ≠ "" ∧ query.toList.head? ≠ some '/') ∧
    (∀ word rest, Text.trim line.toList = '/' :: (word ++ rest) →
      (∀ c ∈ word, Text.isSpace c = false) → (∀ c ∈ rest.head?, Text.isSpace c = true) →
      ∀ command, parse line = .command command ↔
        if String.ofList word ∈ Command.words then
          Command.Names (String.ofList word) (Text.trim rest) command
        else command = .unknown (String.ofList (word ++ rest))) ∧
    (∀ n, parse line = .command (.load (some n)) ↔
      ∃ rest, Text.trim line.toList = "/load".toList ++ rest ∧
        (∀ c ∈ rest.head?, Text.isSpace c = true) ∧
        Text.Spells (Text.trim rest) n ∧ 0 < n ∧ n ≤ Text.maxWord) ∧
    parse (parse line).write = parse line ∧
    ∀ input : Input, (input.Typable ↔ ∃ line, parse line = input) ∧
      (input.Typable → parse input.write = input) := by
  refine ⟨fun _ => parse_eq_iff_means, ?_, parse_eq_empty_iff, fun _ => parse_eq_text_iff,
    fun _ _ => parse_eq_command_iff_of_word, ?_, parse_write_iff.2 (typable_parse line), ?_⟩
  -- White space around a line is trimmed before anything else.
  · intro before after hbefore hafter
    rw [parse, String.toList_append, String.toList_append, Text.trim_append_of_isBlank hafter,
      Text.trim_of_isBlank_append hbefore, parse]
  · intro n
    rw [parse_eq_command_iff]
    simp only [Command.means_load_iff]
    constructor
    · rintro ⟨behind, htrim, rest, rfl, hrest⟩
      exact ⟨rest, htrim, hrest⟩
    · rintro ⟨rest, htrim, hrest⟩
      exact ⟨"load".toList ++ rest, htrim, rest, rfl, hrest⟩
  · intro input
    refine ⟨⟨fun h => ⟨input.write, parse_write_iff.2 h⟩, ?_⟩, parse_write_iff.2⟩
    rintro ⟨line, rfl⟩
    exact typable_parse line

/-- White space of other kinds, a number with a sign and zeros in front, a slash that stands alone,
and a draft of two lines. -/
theorem exotic_lines_follow_grammar :
    parse ("\u2003" ++ "/load\u00a0+007" ++ "\n") = .command (.load (some 7)) ∧
    parse "/ x" = .command (.unknown " x") ∧
    parse "/draft SELECT 1;\nSELECT 2" = .command (.draft "SELECT 1;\nSELECT 2") ∧
    parse (write (.command (.load (some Text.maxWord)))) =
      .command (.load (some Text.maxWord)) := by
  obtain ⟨-, hpadded, -, -, -, hload, -⟩ := parse_follows_grammar "/load\u00a0+007"
  obtain ⟨-, -, -, -, hbare, -⟩ := parse_follows_grammar "/ x"
  obtain ⟨-, -, -, -, hdraft, -, -, hinputs⟩ := parse_follows_grammar "/draft SELECT 1;\nSELECT 2"
  have hseven : parse "/load\u00a0+007" = .command (.load (some 7)) :=
    (hload 7).2 ⟨['\u00a0', '+', '0', '0', '7'], by decide, Text.isSpace_of_mem_head? rfl,
      ⟨['0', '0', '7'], by decide⟩, by decide, by decide⟩
  refine ⟨(hpadded "\u2003" "\n" (by decide) (by decide)).trans hseven, ?_, ?_, ?_⟩
  · refine (hbare [] [' ', 'x'] (by decide) (List.forall_mem_nil _) (Text.isSpace_of_mem_head? rfl)
      _).2 ?_
    rw [if_neg (by decide)]
    rfl
  · refine (hdraft "draft".toList (' ' :: "SELECT 1;\nSELECT 2".toList) (by decide)
      (Text.not_isSpace_of_all (by decide)) (Text.isSpace_of_mem_head? rfl) _).2 ?_
    rw [if_pos (by decide)]
    exact .draft "SELECT 1;\nSELECT 2".toList
  · exact (hinputs _).2 ⟨by decide, by decide⟩

end Input

end QueryBridge
