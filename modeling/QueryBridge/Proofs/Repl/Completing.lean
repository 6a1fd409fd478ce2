import QueryBridge.Completion
import QueryBridge.Proofs.Repl.Grammar

/-!
# What is completed is read as a command

The completer looks words up in the table of commands, while the reading of a line has words of its
own (`Command.words`). Both hold the same words, but for two short ways to leave
(`Command.words_eq_table`); a word that is added to one side only breaks that equation.

So a suggestion leads to a command, whatever is typed behind it (`leadsToCommand_of_mem`), and the
word of a line that is read as a command is suggested for each of its beginnings
(`exists_suggestion_of_wordOf`).
-/

set_option autoImplicit false

namespace QueryBridge

/-! ## The words of both sides -/

namespace Command

/-- The command is not what stands for words without one. -/
def IsKnown (command : Command) : Prop :=
  ∀ text, command ≠ .unknown text

/-- Two words that leave the program and are not in the table of commands. -/
def shortWords : List String := ["/exit", "/q"]

/-- The words that the parser knows are those of the table and the short ones, in this order. -/
theorem words_eq_table :
    words.map (fun word => "/" ++ word) = commandTable.map Prod.fst ++ shortWords := by
  decide

section Words

variable {row : String × String} {word : String} {argument : List Char} {command : Command}

theorem exists_word_of_mem_table (h : row ∈ commandTable) :
    ∃ word ∈ words, "/" ++ word = row.1 := by
  have hin : row.1 ∈ words.map fun word => "/" ++ word := by
    rw [words_eq_table]
    exact List.mem_append_left _ (List.mem_map_of_mem h)
  exact List.mem_map.1 hin

/-- Every word that the parser knows and that is not short has a row in the table. -/
theorem exists_row_of_mem_words (h : word ∈ words) (hshort : "/" ++ word ∉ shortWords) :
    ∃ row ∈ commandTable, row.1 = "/" ++ word := by
  have hin : "/" ++ word ∈ words.map fun word => "/" ++ word := List.mem_map_of_mem h
  rw [words_eq_table, List.mem_append] at hin
  exact List.mem_map.1 (hin.resolve_right hshort)

/-- The words of the table begin with a slash and hold no white space. -/
theorem slash_and_not_isSpace_of_mem_table (h : row ∈ commandTable) :
    row.1.toList.head? = some '/' ∧ ∀ c ∈ row.1.toList, Text.isSpace c = false := by
  have hall : ∀ row ∈ commandTable,
      row.1.toList.head? = some '/' ∧ row.1.toList.all (!Text.isSpace ·) = true := by
    decide
  obtain ⟨hslash, hfree⟩ := hall row h
  exact ⟨hslash, Text.not_isSpace_of_all hfree⟩

theorem Names.isKnown (h : Names word argument command) : command.IsKnown := by
  rintro text rfl
  cases h

/-- Every word that the parser knows names a command, whatever argument comes behind it. -/
theorem exists_names (h : word ∈ words) (argument : List Char) :
    ∃ command, Names word argument command := by
  have hread : ofWord? word.toList argument ≠ none := fun hnone =>
    ofWord?_eq_none_iff.1 hnone (by rwa [String.ofList_toList])
  obtain ⟨command, hcommand⟩ := Option.ne_none_iff_exists'.1 hread
  rw [ofWord?_eq_some_iff, String.ofList_toList] at hcommand
  exact ⟨command, hcommand⟩

end Words

end Command

namespace Input

/-- The word of a line: what is left of the line without the white space around it, up to the first
white space in there. -/
def WordOf (line word : String) : Prop :=
  ∃ rest, Text.trim line.toList = word.toList ++ rest ∧
    (∀ c ∈ word.toList, Text.isSpace c = false) ∧ ∀ c ∈ rest.head?, Text.isSpace c = true

variable {line word : String} {command : Command}

/-- A command word is read as a command, whatever text stands behind it. -/
theorem exists_parse_of_mem_words (h : word ∈ Command.words) (behind : String) :
    ∃ command, parse ("/" ++ word ++ " " ++ behind) = .command command ∧ command.IsKnown := by
  obtain ⟨command, hnames⟩ := Command.exists_names h (Text.trim (' ' :: behind.toList))
  have hmeans := means_of_names (Text.isSpace_of_mem_head? (by decide)) hnames
  have hline : ("/" ++ word ++ " " ++ behind).toList =
      '/' :: (word.toList ++ ' ' :: behind.toList) := by
    simp [String.toList_append]
  rw [← hline] at hmeans
  exact ⟨command, parse_eq_iff_means.2 hmeans, hnames.isKnown⟩

/-- The word of a line that is read as a known command is a command word. -/
theorem WordOf.mem_words (h : WordOf line word) (hparse : parse line = .command command)
    (hknown : command.IsKnown) : ∃ name ∈ Command.words, "/" ++ name = word := by
  obtain ⟨rest, htrim, hword, hrest⟩ := h
  obtain ⟨behind, hslash, -⟩ := parse_eq_command_iff.1 hparse
  cases hchars : word.toList with
  | nil =>
      -- The slash would stand behind the empty word, where white space has to.
      rw [hslash, hchars, List.nil_append] at htrim
      have hspace := hrest '/' (by rw [← htrim]; rfl)
      exact absurd hspace (by decide)
  | cons c name =>
      rw [hchars] at htrim hword
      have hc : c = '/' := by
        rw [hslash] at htrim
        exact (List.cons.inj htrim).1.symm
      subst hc
      have hnames := (parse_eq_command_iff_of_word htrim
        (fun d hd => hword d (List.mem_cons_of_mem _ hd)) hrest command).1 hparse
      split at hnames
      · rename_i hlisted
        refine ⟨String.ofList name, hlisted, String.toList_inj.1 ?_⟩
        simp [hchars]
      · exact absurd hnames (hknown _)

end Input

/-! ## Suggestions -/

/-- A word is the first one of a text in which white space follows it, or nothing. -/
theorem Text.firstWord_append {word rest : List Char} (hword : ∀ c ∈ word, isSpace c = false)
    (hne : word ≠ []) (hrest : ∀ c ∈ rest.head?, isSpace c = true) :
    firstWord (word ++ rest) = word := by
  have hstart : trimStart (word ++ rest) = word ++ rest := by
    cases word with
    | nil => exact absurd rfl hne
    | cons c word => exact List.dropWhile_cons_of_neg (by simp [hword c List.mem_cons_self])
  rw [firstWord, hstart]
  exact (Command.takeWhile_dropWhile_of_word hword hrest).1

namespace Completion

/-- What a suggestion for an input leads to. -/
structure LeadsToCommand (input text word : String) : Prop where
  /-- Taking the suggestion keeps the word. -/
  taken : accept (some text) = some word
  begun : input.toList <+: word.toList
  /-- The suggestion stays until the word is typed in full. -/
  again : text ∈ suggestions word
  read : ∀ behind : String, ∃ command,
    Input.parse (word ++ " " ++ behind) = .command command ∧ command.IsKnown

variable {input text : String} {row : String × String}

/-- The rows for an input are those whose word it begins. White space needs no look of its own, as
no word of the table has any. -/
theorem mem_matching_iff :
    row ∈ matching input ↔
      row ∈ commandTable ∧ input.toList.head? = some '/' ∧ input.toList <+: row.1.toList := by
  rw [matching]
  split
  · rename_i hguard
    rw [Bool.or_eq_true, decide_eq_true_eq, List.any_eq_true] at hguard
    refine iff_of_false List.not_mem_nil ?_
    rintro ⟨hrow, hslash, hbegins⟩
    have hfree := (Command.slash_and_not_isSpace_of_mem_table hrow).2
    rcases hguard with hother | ⟨c, hc, hspace⟩
    · exact hother hslash
    · rw [hfree c (hbegins.subset hc)] at hspace
      cases hspace
  · rename_i hguard
    rw [Bool.or_eq_true, decide_eq_true_eq, not_or, Classical.not_not] at hguard
    rw [List.mem_filter, List.isPrefixOf_iff_prefix, and_iff_right hguard.1]

/-- A row is suggested as soon as the input begins it, from the slash on. -/
theorem mem_suggestions_of_row (h : row ∈ commandTable) (hslash : input.toList.head? = some '/')
    (hbegins : input.toList <+: row.1.toList) : suggestion row ∈ suggestions input :=
  List.mem_map_of_mem (mem_matching_iff.2 ⟨h, hslash, hbegins⟩)

/-- Taking the suggestion for a row keeps the word of the row. -/
theorem accept_suggestion (h : row ∈ commandTable) :
    accept (some (suggestion row)) = some row.1 := by
  obtain ⟨hslash, hfree⟩ := Command.slash_and_not_isSpace_of_mem_table h
  have hne : row.1.toList ≠ [] := by
    intro hnil
    rw [hnil] at hslash
    cases hslash
  rw [accept, Option.map_some, suggestion, String.append_assoc, String.toList_append,
    Text.firstWord_append hfree hne, String.ofList_toList]
  rw [String.toList_append]
  exact Text.isSpace_of_mem_head? (by decide)

/-- Every suggestion leads to a command. -/
theorem leadsToCommand_of_mem (h : text ∈ suggestions input) :
    ∃ word ∈ commandTable.map Prod.fst, LeadsToCommand input text word := by
  obtain ⟨row, hrow, rfl⟩ := List.mem_map.1 h
  obtain ⟨htable, -, hbegins⟩ := mem_matching_iff.1 hrow
  obtain ⟨hslash, -⟩ := Command.slash_and_not_isSpace_of_mem_table htable
  refine ⟨row.1, List.mem_map_of_mem htable, accept_suggestion htable, hbegins,
    mem_suggestions_of_row htable hslash (List.prefix_refl _), ?_⟩
  intro behind
  obtain ⟨word, hword, hrow⟩ := Command.exists_word_of_mem_table htable
  rw [← hrow]
  exact Input.exists_parse_of_mem_words hword behind

/-- The word of a line that is read as a command is suggested for each of its beginnings. -/
theorem exists_suggestion_of_wordOf {line word front : String} {command : Command}
    (hword : Input.WordOf line word) (hparse : Input.parse line = .command command)
    (hknown : command.IsKnown) (hshort : word ∉ Command.shortWords)
    (hslash : front.toList.head? = some '/') (hbegins : front.toList <+: word.toList) :
    ∃ text ∈ suggestions front, accept (some text) = some word := by
  obtain ⟨name, hname, rfl⟩ := hword.mem_words hparse hknown
  obtain ⟨row, hrow, hsame⟩ := Command.exists_row_of_mem_words hname hshort
  rw [← hsame] at hbegins ⊢
  exact ⟨suggestion row, mem_suggestions_of_row hrow hslash hbegins, accept_suggestion hrow⟩

/-- Nothing is suggested for an input that is no command, or that has an argument already. -/
theorem suggestions_eq_nil
    (h : input.toList.head? ≠ some '/' ∨ ∃ c ∈ input.toList, Text.isSpace c = true) :
    suggestions input = [] := by
  have hguard : (decide (input.toList.head? ≠ some '/') || input.toList.any Text.isSpace) =
      true := by
    rwa [Bool.or_eq_true, decide_eq_true_eq, List.any_eq_true]
  rw [suggestions, matching, if_pos hguard, List.map_nil]

/-- Suggestions are those of the whole table with some of them left out. -/
theorem suggestions_sublist (input : String) :
    (suggestions input).Sublist (commandTable.map suggestion) := by
  have hmatching : (matching input).Sublist commandTable := by
    rw [matching]
    split
    · exact List.nil_sublist _
    · exact List.filter_sublist
  exact hmatching.map suggestion

/-- No row is suggested twice. -/
theorem nodup_suggestions (input : String) : (suggestions input).Nodup := by
  have htable : (commandTable.map suggestion).Nodup := by decide
  exact (suggestions_sublist input).nodup htable

/-- The completer and the reading of lines agree. A suggestion for an input is taken as a word of
the table that begins with the input; it is suggested again for that word, which is read as a
command with any text behind it. The word of a line that is read as a command is suggested for each
of its beginnings, unless it is one of the two that are not in the table.

An input that does not begin with a slash or holds white space has no suggestions. Suggestions keep
the order of the table, and none of them comes twice. -/
theorem suggestions_agree_with_parse (input line : String) :
    (∀ text ∈ suggestions input,
      ∃ word ∈ commandTable.map Prod.fst, LeadsToCommand input text word) ∧
    (∀ word command, Input.WordOf line word → Input.parse line = .command command →
      command.IsKnown → word ≠ "/exit" → word ≠ "/q" →
      ∀ front : String, front.toList.head? = some '/' → front.toList <+: word.toList →
        ∃ text ∈ suggestions front, accept (some text) = some word) ∧
    (input.toList.head? ≠ some '/' ∨ (∃ c ∈ input.toList, Text.isSpace c = true) →
      suggestions input = []) ∧
    (suggestions input).Sublist (commandTable.map suggestion) ∧ (suggestions input).Nodup := by
  refine ⟨fun _ => leadsToCommand_of_mem, ?_, suggestions_eq_nil, suggestions_sublist input,
    nodup_suggestions input⟩
  intro word command hword hparse hknown hexit hq front hslash hbegins
  have hshort : word ∉ Command.shortWords := by
    simp [Command.shortWords, hexit, hq]
  exact exists_suggestion_of_wordOf hword hparse hknown hshort hslash hbegins

/-- A suggestion for the beginning of two words, a line with white space of other kinds, and an
input that is more than a word. -/
theorem beginnings_are_completed :
    ("/help  Show available commands" ∈ suggestions "/h" ∧
      ∃ word ∈ commandTable.map Prod.fst,
        LeadsToCommand "/h" "/help  Show available commands" word) ∧
    (Input.WordOf "\u2003/load\u00a0x" "/load" ∧
      Input.parse "\u2003/load\u00a0x" = .command (.load none) ∧
      ∃ text ∈ suggestions "/lo", accept (some text) = some "/load") ∧
    suggestions "/load 7" = [] := by
  obtain ⟨hleads, hfound, -⟩ := suggestions_agree_with_parse "/h" "\u2003/load\u00a0x"
  obtain ⟨-, -, hnone, -⟩ := suggestions_agree_with_parse "/load 7" ""
  have hsuggested : "/help  Show available commands" ∈ suggestions "/h" := by decide
  have hword : Input.WordOf "\u2003/load\u00a0x" "/load" :=
    ⟨['\u00a0', 'x'], by decide, Text.not_isSpace_of_all (by decide),
      Text.isSpace_of_mem_head? (by decide)⟩
  have hparse : Input.parse "\u2003/load\u00a0x" = .command (.load none) := by decide
  have hknown : (Command.load none).IsKnown := fun _ => Command.noConfusion
  refine ⟨⟨hsuggested, hleads _ hsuggested⟩, ⟨hword, hparse, ?_⟩, ?_⟩
  · exact hfound _ _ hword hparse hknown (by decide) (by decide) "/lo" (by decide) (by decide)
  · exact hnone (.inr ⟨' ', by decide, by decide⟩)

end Completion

end QueryBridge
