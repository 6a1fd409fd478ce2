import Mathlib.Data.List.Nodup
import QueryBridge.Proofs.CommandLine.Spelling

/-!
# Command lines decode to what they spell

The parser judges the file and a value that stands apart from its option only when something else
comes. So a step is stated for what the parser has settled once everything pending is judged
(`Progress.Stands`): reading a word that says something new settles just that word more
(`exists_takesAll_word`). By induction a level settles all its words in whatever order they come,
and the levels together give what the command line spells (`parse_eq`).
-/

set_option autoImplicit false

namespace QueryBridge.CommandLine

/-! ## What is said and what is new -/

/-- What is given on a level once a word has been said. -/
def Given.say (given : Given) (word : Word) : Given where
  file := word.file?.or given.file
  flags := word.flags.reverse ++ given.flags
  endpoint := word.endpoint?.or given.endpoint
  timeout := (word.timeout?.bind fun t => Text.parseWord? t.toList).or given.timeout

/-- What is given on a level once words have been said. -/
def Given.sayAll (given : Given) (words : List Word) : Given :=
  words.foldl Given.say given

/-- Nothing that words say has been given, and none of it is said twice. -/
structure Given.Lacks (given : Given) (words : List Word) : Prop where
  file : (words.filterMap Word.file?).length + given.file.toList.length ≤ 1
  flags : (words.flatMap Word.flags ++ given.flags).Nodup
  endpoint : (words.filterMap Word.endpoint?).length + given.endpoint.toList.length ≤ 1
  timeout : (words.filterMap Word.timeout?).length + given.timeout.toList.length ≤ 1

/-- Everything pending is sound, and once it is judged, this is given. -/
def Progress.Stands (progress : Progress) (given : Given) : Prop :=
  progress.settle = .ok ⟨given, none, given.file.isSome⟩

/-! ## The names of the tables -/

theorem long?_name {level : Level} {f : Flag} (h : f.isOn level = true) :
    long? level (String.ofList f.name.toList) = some (.flag f) := by
  revert h
  rcases level with _ | _ | _ <;> cases f <;> decide

theorem short?_letter {level : Level} {f : Flag} {c : Char} (h : f.isOn level = true)
    (hc : f.letter? = some c) : short? level c = some (.flag f) := by
  revert h hc
  rcases level with _ | _ | _ <;> cases f <;> rintro h ⟨⟩ <;> revert h <;> decide

theorem long?_setting (level : Level) (setting : Setting) :
    long? level (String.ofList setting.name.toList) = some (.setting setting) := by
  rcases level with _ | _ | _ <;> cases setting <;> decide

theorem short?_endpoint (level : Level) : short? level 'e' = some (.setting .endpoint) := by
  rcases level with _ | _ | _ <;> decide

theorem verb?_eq_none {word : String} (h : word ∉ ["interactive", "i", "configure", "help"]) :
    verb? word = none := by
  simp only [List.mem_cons, List.not_mem_nil, or_false, not_or, ← beq_eq_false_iff_ne] at h
  obtain ⟨hfirst, hsecond, hthird, hfourth⟩ := h
  simp only [verb?, verbs, List.lookup_cons, List.lookup_nil, hfirst, hsecond, hthird, hfourth]

theorem verb?_of_dash {word : String} {rest : List Char} (h : word.toList = '-' :: rest) :
    verb? word = none := by
  refine verb?_eq_none fun hmem => ?_
  have hhead : ∀ w ∈ ["interactive", "i", "configure", "help"], w.toList.head? ≠ some '-' := by
    decide
  exact hhead word hmem (by rw [h, List.head?_cons])

theorem verb?_of_name {command : Command} {name : String} (h : name ∈ command.names) :
    verb? name = some (.command command) := by
  have hall : ∀ w ∈ command.names, verb? w = some (.command command) := by
    cases command <;> decide
  exact hall name h

/-! ## Looks of arguments -/

theorem shapeOf_long {argument : String} {c : Char} {rest : List Char}
    (h : argument.toList = '-' :: '-' :: c :: rest) : shapeOf argument = .long (c :: rest) := by
  rw [shapeOf, h]
  rfl

theorem shapeOf_short {argument : String} {c : Char} {rest : List Char}
    (h : argument.toList = '-' :: c :: rest) (hc : c ≠ '-') :
    shapeOf argument = .short (c :: rest) := by
  rw [shapeOf, h]
  split <;> simp_all

theorem shapeOf_operand {argument : String} (h : IsOperand argument) :
    shapeOf argument = .plain := by
  obtain ⟨-, hdash⟩ := h
  rw [shapeOf]
  split <;> simp_all

/-! ## Steps of the parser -/

section Step

variable {level : Level} {progress : Progress} {given : Given}

theorem stands_start : Progress.Stands {} {} :=
  rfl

theorem stands_settled (given : Given) : Progress.Stands ⟨given, none, given.file.isSome⟩ given :=
  rfl

theorem stands_setting {setting : Setting} {value : String} {after : Given} {hasFile : Bool}
    (h : given.set setting value = .ok after) (hfile : after.file.isSome = hasFile) :
    Progress.Stands ⟨given, some (.setting setting (some value)), hasFile⟩ after := by
  rw [Progress.Stands, Progress.settle, Given.settle, h, hfile]
  rfl

namespace Progress.Stands

/-- Where everything pending is sound, no option waits for its value. -/
theorem awaitsValue (h : progress.Stands given) : progress.awaitsValue = false := by
  obtain ⟨now, pending, hasFile⟩ := progress
  cases pending with
  | none => rfl
  | some pending =>
      cases pending with
      | file name => rfl
      | setting setting value =>
          cases value with
          | some value => rfl
          | none => cases h

theorem hasFile (h : progress.Stands given) : progress.hasFile = given.file.isSome := by
  rw [Stands, settle] at h
  cases hgiven : progress.given.settle progress.pending with
  | error fault =>
      rw [hgiven] at h
      cases h
  | ok settled =>
      rw [hgiven] at h
      exact congrArg Progress.hasFile (Except.ok.inj h)

theorem finish (h : progress.Stands given) : finish progress = .ok given := by
  rw [CommandLine.finish, h]

theorem act_flag (h : progress.Stands given) {f : Flag} (hf : f ∉ given.flags) :
    progress.act level (.flag f) =
      .ok ⟨{ given with flags := f :: given.flags }, none, given.file.isSome⟩ := by
  have hnew : given.flags.contains f = false := by simpa using hf
  rw [act, h]
  simp only [Given.raise, hnew]
  rfl

theorem act_setting (h : progress.Stands given) (level : Level) (setting : Setting) :
    progress.act level (.setting setting) =
      .ok ⟨given, some (.setting setting none), given.file.isSome⟩ := by
  rw [act, h]

theorem attach_setting (h : progress.Stands given) {setting : Setting} {value : String}
    {after : Given} (hset : given.set setting value = .ok after) :
    progress.attach (.setting setting) value = .ok ⟨after, none, given.file.isSome⟩ := by
  rw [attach, h]
  simp only [hset]

/-- Letters of flags are taken one after the other. -/
theorem takeShort_letters (h : progress.Stands given) {flags : List Flag}
    (hfits : ∀ f ∈ flags, f.isOn level = true ∧ f.letter? ≠ none)
    (hnew : (flags ++ given.flags).Nodup) (rest : List Char) :
    ∃ next : Progress, next.Stands { given with flags := flags.reverse ++ given.flags } ∧
      progress.takeShort level (flags.filterMap Flag.letter? ++ rest) =
        next.takeShort level rest := by
  induction flags generalizing progress given with
  | nil => exact ⟨progress, h, rfl⟩
  | cons f flags ih =>
      rw [List.forall_mem_cons] at hfits
      obtain ⟨⟨hon, hletter⟩, hfits⟩ := hfits
      obtain ⟨c, hc⟩ := Option.ne_none_iff_exists'.1 hletter
      rw [List.cons_append, List.nodup_cons, List.mem_append, not_or] at hnew
      obtain ⟨⟨hf, hgiven⟩, hnew⟩ := hnew
      -- The flag goes in front of those given, and the others are still new.
      have hraised := stands_settled { given with flags := f :: given.flags }
      obtain ⟨next, hnext, htake⟩ := ih hraised hfits
        (List.perm_middle.nodup_iff.2 (List.nodup_cons.2 ⟨by simp [hf, hgiven], hnew⟩))
      refine ⟨next, ?_, ?_⟩
      · rw [List.reverse_cons, List.append_assoc]
        exact hnext
      · rw [List.filterMap_cons_some hc, List.cons_append, takeShort, short?_letter hon hc, ← htake]
        simp only [h.act_flag hgiven]

end Progress.Stands

/-- An argument is taken on a level, and is neither the word for a command there nor the
separator. -/
structure Takes (level : Level) (progress : Progress) (argument : String) (next : Progress) :
    Prop where
  noCommand : commandAt level progress argument = none
  noSeparator : shapeOf argument ≠ .separator
  taken : take level progress argument = .ok next

/-- Arguments are taken on a level, one after the other. -/
def TakesAll (level : Level) (progress : Progress) : List String → Progress → Prop
  | [], next => progress = next
  | argument :: rest, next =>
    ∃ middle, Takes level progress argument middle ∧ TakesAll level middle rest next

theorem TakesAll.append {first later : List String} {middle next : Progress}
    (hfirst : TakesAll level progress first middle) (hlater : TakesAll level middle later next) :
    TakesAll level progress (first ++ later) next := by
  induction first generalizing progress with
  | nil =>
      cases hfirst
      exact hlater
  | cons argument rest ih =>
      obtain ⟨after, htakes, hrest⟩ := hfirst
      exact ⟨after, htakes, ih hrest⟩

theorem commandAt_of_verb?_eq_none {argument : String} (h : verb? argument = none) :
    commandAt level progress argument = none := by
  rw [commandAt, h, ite_self]

theorem ne_equals_of_mem {s : List Char} (hs : '=' ∉ s) : ∀ c ∈ s, decide (c ≠ '=') = true := by
  intro c hc
  refine decide_eq_true ?_
  rintro rfl
  exact hs hc

/-- A long name without an equals sign is looked up as a whole. -/
theorem takeLong_name {s : List Char} {action : Action} (hs : '=' ∉ s)
    (h : long? level (String.ofList s) = some action) :
    progress.takeLong level s = progress.act level action := by
  have hplain := ne_equals_of_mem hs
  have htake : s.takeWhile (· ≠ '=') = s := List.takeWhile_eq_self_iff.2 hplain
  have hdrop : s.dropWhile (· ≠ '=') = [] := List.dropWhile_eq_nil_iff.2 hplain
  rw [Progress.takeLong, htake, h, hdrop]

/-- A long name is looked up as far as the equals sign, and its value is what follows. -/
theorem takeLong_attached {s value : List Char} {action : Action} (hs : '=' ∉ s)
    (h : long? level (String.ofList s) = some action) :
    progress.takeLong level (s ++ '=' :: value) =
      progress.attach action (String.ofList value) := by
  have hend : ∀ c ∈ ('=' :: value).head?, decide (c ≠ '=') = false := by simp
  obtain ⟨htake, hdrop⟩ := Text.span_append (ne_equals_of_mem hs) hend
  rw [Progress.takeLong, htake, h, hdrop]

theorem takes_long {argument : String} {s : List Char} {next : Progress}
    (h : argument.toList = '-' :: '-' :: s) (hne : s ≠ [])
    (htake : progress.takeLong level s = .ok next) : Takes level progress argument next := by
  obtain ⟨c, rest, rfl⟩ := List.exists_cons_of_ne_nil hne
  have hshape := shapeOf_long h
  refine ⟨commandAt_of_verb?_eq_none (verb?_of_dash h), ?_, ?_⟩
  · rw [hshape]
    exact Shape.noConfusion
  · rw [take, hshape]
    exact htake

theorem takes_short {argument : String} {c : Char} {rest : List Char} {next : Progress}
    (h : argument.toList = '-' :: c :: rest) (hc : c ≠ '-')
    (htake : progress.takeShort level (c :: rest) = .ok next) :
    Takes level progress argument next := by
  have hshape := shapeOf_short h hc
  refine ⟨commandAt_of_verb?_eq_none (verb?_of_dash h), ?_, ?_⟩
  · rw [hshape]
    exact Shape.noConfusion
  · rw [take, hshape]
    exact htake

/-- The value of an option is taken whatever it says, also if it is the word for a command. -/
theorem takes_value {setting : Setting} {value : String} {hasFile : Bool}
    (h : IsOperand value) :
    Takes level ⟨given, some (.setting setting none), hasFile⟩ value
      ⟨given, some (.setting setting (some value)), hasFile⟩ := by
  have hshape := shapeOf_operand h
  refine ⟨?_, ?_, ?_⟩
  · cases level <;> rfl
  · rw [hshape]
    exact Shape.noConfusion
  · rw [take, hshape]
    rfl

/-! ## Words -/

/-- What a word says, and what may be given once only, has not been given. -/
theorem eq_none_of_room {α β : Type} {read : Word → Option α} {word : Word} {said : α}
    {earlier : Option β}
    (hroom : ([word].filterMap read).length + earlier.toList.length ≤ 1)
    (hread : read word = some said) : earlier = none := by
  cases earlier with
  | none => rfl
  | some other => simp [hread] at hroom

/-- A value that a setting accepts is set, if there is none yet. -/
theorem set_of_lacks {setting : Setting} {value : String} (haccepts : setting.Accepts value)
    (h : given.Lacks [.attached setting value]) :
    given.set setting value = .ok (given.say (.attached setting value)) := by
  cases setting with
  | endpoint =>
      have hnone : given.endpoint = none := eq_none_of_room h.endpoint rfl
      rw [Given.set, hnone]
      rfl
  | timeout =>
      obtain ⟨n, hspells, hword⟩ := haccepts
      have hread : Text.parseWord? value.toList = some n :=
        Text.parseWord?_eq_some_iff.2 ⟨hspells, hword⟩
      have hnone : given.timeout = none := eq_none_of_room h.timeout rfl
      simp only [Given.set, Given.say, Word.timeout?, Option.bind_some, hnone, hread]
      rfl

theorem toList_of_dashes (s : String) : ("--" ++ s).toList = '-' :: '-' :: s.toList := by
  rw [String.toList_append]
  rfl

/-- An option by its long name waits for its value. -/
theorem takes_setting (h : progress.Stands given) (setting : Setting) :
    Takes level progress ("--" ++ setting.name)
      ⟨given, some (.setting setting none), given.file.isSome⟩ := by
  have hs : '=' ∉ setting.name.toList ∧ setting.name.toList ≠ [] := by cases setting <;> decide
  refine takes_long (toList_of_dashes _) hs.2 ?_
  rw [takeLong_name hs.1 (long?_setting level setting), h.act_setting level]

/-- Letters of flags, and the letter of the endpoint behind them, are taken. -/
theorem exists_takes_letters (h : progress.Stands given) {flags : List Flag} {tail : List Char}
    (hfits : ∀ f ∈ flags, f.isOn level = true ∧ f.letter? ≠ none)
    (hnew : (flags ++ given.flags).Nodup) (hne : flags.filterMap Flag.letter? ++ tail ≠ [])
    (htail : ∀ c ∈ tail, c ≠ '-') :
    ∃ next : Progress, next.Stands { given with flags := flags.reverse ++ given.flags } ∧
      ∀ last, next.takeShort level tail = .ok last →
        Takes level progress ("-" ++ String.ofList (flags.filterMap Flag.letter? ++ tail))
          last := by
  obtain ⟨next, hstands, htake⟩ := h.takeShort_letters hfits hnew tail
  refine ⟨next, hstands, fun last hlast => ?_⟩
  obtain ⟨c, rest, hletters⟩ := List.exists_cons_of_ne_nil hne
  have hc : c ≠ '-' := by
    have hmem : c ∈ flags.filterMap Flag.letter? ++ tail := hletters ▸ List.mem_cons_self
    rcases List.mem_append.1 hmem with hmem | hmem
    · obtain ⟨f, -, hf⟩ := List.mem_filterMap.1 hmem
      rintro rfl
      cases f <;> cases hf
    · exact htail c hmem
  rw [hletters] at htake ⊢
  exact takes_short (by simp) hc (htake.trans hlast)

/-- It makes no difference whether a value is attached or stands apart. -/
theorem say_apart (setting : Setting) (value : String) :
    given.say (.apart setting value) = given.say (.attached setting value) := by
  cases setting <;> rfl

theorem lacks_attached {setting : Setting} {value : String}
    (h : given.Lacks [.apart setting value]) : given.Lacks [.attached setting value] := by
  cases setting <;> exact ⟨h.file, h.flags, h.endpoint, h.timeout⟩

/-- A file name is taken as the file, if there is none yet and it names no command. -/
theorem exists_takesAll_file (h : progress.Stands given) {name : String}
    (hoperand : IsOperand name) (hverb : name ∉ ["interactive", "i", "configure", "help"])
    (hnone : given.file = none) :
    ∃ next : Progress, TakesAll none progress [name] next ∧
      next.Stands (given.say (.file name)) := by
  have hshape := shapeOf_operand hoperand
  have hfree : progress.hasFile = false := by rw [h.hasFile, hnone]; rfl
  have hname : name.isEmpty = false := by simpa using hoperand.1
  refine ⟨⟨given, some (.file name), true⟩, ⟨_, ⟨?_, ?_, ?_⟩, rfl⟩, ?_⟩
  · exact commandAt_of_verb?_eq_none (verb?_eq_none hverb)
  · rw [hshape]
    exact Shape.noConfusion
  · rw [take, hshape]
    simp only [h.awaitsValue, Progress.takeFile, hfree]
    rw [h]
    rfl
  · rw [Progress.Stands, Progress.settle, Given.settle, hname]
    rfl

/-- Letters are taken, and so is the endpoint that the last one of them may ask for. -/
theorem exists_takesAll_letters (h : progress.Stands given) {flags : List Flag}
    {endpoint : Option String} (hfits : (Word.letters flags endpoint).Fits level)
    (hnew : given.Lacks [.letters flags endpoint]) :
    ∃ next : Progress, TakesAll level progress (Word.letters flags endpoint).arguments next ∧
      next.Stands (given.say (.letters flags endpoint)) := by
  obtain ⟨hflags, hsome, hvalue⟩ := hfits
  have hfresh : (flags ++ given.flags).Nodup := by
    have hnodup := hnew.flags
    rwa [List.flatMap_singleton] at hnodup
  cases endpoint with
  | none =>
      have hne : flags.filterMap Flag.letter? ++ [] ≠ [] := by
        rw [List.append_nil]
        obtain ⟨f, hf⟩ := List.exists_mem_of_ne_nil _ (hsome.resolve_right fun hn => hn rfl)
        obtain ⟨c, hc⟩ := Option.ne_none_iff_exists'.1 (hflags f hf).2
        exact List.ne_nil_of_mem (List.mem_filterMap.2 ⟨f, hf, hc⟩)
      obtain ⟨next, hstands, htakes⟩ :=
        exists_takes_letters h hflags hfresh hne (List.forall_mem_nil _)
      rw [List.append_nil] at htakes
      exact ⟨next, ⟨_, htakes next rfl, rfl⟩, hstands⟩
  | some value =>
      obtain ⟨next, hstands, htakes⟩ :=
        exists_takes_letters h hflags hfresh (List.append_ne_nil_of_right_ne_nil _
          (List.cons_ne_nil 'e' [])) (List.forall_mem_singleton.2 (by decide))
      have hnone : given.endpoint = none := eq_none_of_room hnew.endpoint rfl
      -- Behind the flags stands the letter of the endpoint, which waits for its value.
      have hwaits : next.takeShort level ['e'] =
          .ok ⟨{ given with flags := flags.reverse ++ given.flags },
            some (.setting .endpoint none), given.file.isSome⟩ := by
        rw [Progress.takeShort, short?_endpoint]
        exact hstands.act_setting level .endpoint
      refine ⟨_, ⟨_, htakes _ hwaits, _, takes_value (hvalue value rfl), rfl⟩,
        stands_setting ?_ rfl⟩
      rw [Given.set, hnone]
      rfl

/-- A word that fits on a level and says something new is taken, and what stands afterwards is what
stood before and what the word says. -/
theorem exists_takesAll_word (h : progress.Stands given) {word : Word} (hfits : word.Fits level)
    (hnew : given.Lacks [word]) :
    ∃ next : Progress, TakesAll level progress word.arguments next ∧
      next.Stands (given.say word) := by
  cases word with
  | file name =>
      obtain ⟨rfl, hoperand, hverb⟩ := hfits
      exact exists_takesAll_file h hoperand hverb (eq_none_of_room hnew.file rfl)
  | flag f =>
      have hs : '=' ∉ f.name.toList ∧ f.name.toList ≠ [] := by cases f <;> decide
      have hf : f ∉ given.flags := (List.nodup_cons.1 hnew.flags).1
      refine ⟨_, ⟨_, takes_long (toList_of_dashes _) hs.2 ?_, rfl⟩, stands_settled _⟩
      rw [takeLong_name hs.1 (long?_name hfits), h.act_flag hf]
      rfl
  | letters flags endpoint => exact exists_takesAll_letters h hfits hnew
  | apart setting value =>
      obtain ⟨haccepts, hoperand⟩ := hfits
      have hset := set_of_lacks haccepts (lacks_attached hnew)
      rw [say_apart]
      refine ⟨_, ⟨_, takes_setting h setting, _, takes_value hoperand, rfl⟩, ?_⟩
      exact stands_setting hset (by cases setting <;> rfl)
  | attached setting value =>
      have hset := set_of_lacks hfits hnew
      have hs : '=' ∉ setting.name.toList ∧ setting.name.toList ≠ [] := by cases setting <;> decide
      refine ⟨⟨given.say (.attached setting value), none, given.file.isSome⟩,
        ⟨_, takes_long (s := setting.name.toList ++ '=' :: value.toList) ?_ ?_ ?_, rfl⟩, ?_⟩
      · simp
      · exact List.append_ne_nil_of_left_ne_nil hs.2 _
      · rw [takeLong_attached hs.1 (long?_setting level setting), String.ofList_toList,
          h.attach_setting hset]
      · cases setting <;> rfl

theorem length_filterMap_cons {α : Type} (read : Word → Option α) (word : Word)
    (words : List Word) :
    ((word :: words).filterMap read).length =
      (read word).toList.length + (words.filterMap read).length := by
  rw [List.filterMap_cons]
  cases read word with
  | none => exact (Nat.zero_add _).symm
  | some value =>
      rw [List.length_cons, Option.toList_some, List.length_singleton]
      omega

theorem length_toList_or {α : Type} (first other : Option α) :
    (first.or other).toList.length ≤ first.toList.length + other.toList.length := by
  cases first <;> cases other <;> simp

/-- What is new of words one after the other is new of the first, and then of the others. -/
theorem Given.Lacks.cons {word : Word} {words : List Word} (h : given.Lacks (word :: words)) :
    given.Lacks [word] ∧ (given.say word).Lacks words := by
  obtain ⟨hfile, hflags, hendpoint, htimeout⟩ := h
  rw [length_filterMap_cons] at hfile hendpoint htimeout
  rw [List.flatMap_cons, List.append_assoc] at hflags
  have hsub : (word.flags ++ given.flags).Sublist
      (word.flags ++ (words.flatMap Word.flags ++ given.flags)) :=
    (List.Sublist.refl _).append (List.sublist_append_right _ _)
  constructor
  -- What is new with the others is new without them.
  · refine ⟨?_, ?_, ?_, ?_⟩
    · rw [length_filterMap_cons, List.filterMap_nil, List.length_nil]
      omega
    · rw [List.flatMap_singleton]
      exact hflags.sublist hsub
    · rw [length_filterMap_cons, List.filterMap_nil, List.length_nil]
      omega
    · rw [length_filterMap_cons, List.filterMap_nil, List.length_nil]
      omega
  -- What the first word has said counts as given now, and the others do not say it again.
  · refine ⟨?_, ?_, ?_, ?_⟩
    · have hsaid := length_toList_or word.file? given.file
      simp only [Given.say]
      omega
    · have hperm : (word.flags ++ (words.flatMap Word.flags ++ given.flags)).Perm
          (words.flatMap Word.flags ++ (word.flags.reverse ++ given.flags)) := by
        rw [← List.append_assoc, ← List.append_assoc]
        have hback := (List.reverse_perm word.flags).symm
        exact (List.perm_append_comm.trans (hback.append_left _)).append_right _
      exact hperm.nodup_iff.1 hflags
    · have hsaid := length_toList_or word.endpoint? given.endpoint
      simp only [Given.say]
      omega
    · have hread : (word.timeout?.bind fun t => Text.parseWord? t.toList).toList.length ≤
          word.timeout?.toList.length := by
        cases word.timeout? with
        | none => exact Nat.le_refl _
        | some t =>
            rw [Option.bind_some]
            cases Text.parseWord? t.toList <;> simp
      have hsaid := length_toList_or (word.timeout?.bind fun t => Text.parseWord? t.toList)
        given.timeout
      simp only [Given.say]
      omega

/-- Words that fit on a level and say nothing twice are taken in whatever order they come. -/
theorem exists_takesAll_words (h : progress.Stands given) {words : List Word}
    (hfits : ∀ word ∈ words, word.Fits level) (hnew : given.Lacks words) :
    ∃ next : Progress, TakesAll level progress (words.flatMap Word.arguments) next ∧
      next.Stands (given.sayAll words) := by
  induction words generalizing progress given with
  | nil => exact ⟨progress, rfl, h⟩
  | cons word words ih =>
      rw [List.forall_mem_cons] at hfits
      obtain ⟨hfirst, hrest⟩ := hnew.cons
      obtain ⟨middle, htaken, hmiddle⟩ := exists_takesAll_word h hfits.1 hfirst
      obtain ⟨next, hothers, hnext⟩ := ih hmiddle hfits.2 hrest
      exact ⟨next, htaken.append hothers, hnext⟩

/-! ## Levels -/

theorem readCommand_of_takesAll {command : Command} {arguments : List String} {next : Progress}
    (h : TakesAll (some command) progress arguments next) :
    readCommand command progress arguments = finish next := by
  induction arguments generalizing progress with
  | nil =>
      cases h
      rfl
  | cons argument rest ih =>
      obtain ⟨middle, htakes, hrest⟩ := h
      rw [readCommand, if_neg htakes.noSeparator, htakes.taken]
      exact ih hrest

theorem readLevels_of_takesAll {arguments rest : List String} {next : Progress}
    (h : TakesAll none progress arguments next) :
    readLevels progress (arguments ++ rest) = readLevels next rest := by
  induction arguments generalizing progress with
  | nil =>
      cases h
      rfl
  | cons argument others ih =>
      obtain ⟨middle, htakes, hothers⟩ := h
      rw [List.cons_append, readLevels, htakes.noCommand]
      simp only [if_neg htakes.noSeparator, htakes.taken]
      exact ih hothers

end Step

/-! ## What is given by words -/

section Sayings

variable {words outer inner : List Word}

/-- Of what words say in turn, the last holds. -/
theorem foldl_or {α : Type} (read : Word → Option α) (words : List Word) (before : Option α) :
    words.foldl (fun value word => (read word).or value) before =
      (words.filterMap read).getLast?.or before := by
  induction words generalizing before with
  | nil => rfl
  | cons word words ih =>
      rw [List.foldl_cons, ih]
      cases hread : read word with
      | none => rw [List.filterMap_cons_none hread, Option.none_or]
      | some value =>
          rw [List.filterMap_cons_some hread, List.getLast?_cons, Option.some_or]
          cases (words.filterMap read).getLast? <;> rfl

/-- What words say on a level field by field, when nothing was given before. -/
theorem sayAll_eq (given : Given) (words : List Word) :
    given.sayAll words =
      { file := (words.filterMap Word.file?).getLast?.or given.file
        flags := (words.flatMap Word.flags).reverse ++ given.flags
        endpoint := (words.filterMap Word.endpoint?).getLast?.or given.endpoint
        timeout := ((words.filterMap Word.timeout?).filterMap fun t =>
          Text.parseWord? t.toList).getLast?.or given.timeout } := by
  rw [List.filterMap_filterMap, ← foldl_or, ← foldl_or, ← foldl_or]
  induction words generalizing given with
  | nil => rfl
  | cons word words ih =>
      rw [Given.sayAll, List.foldl_cons, ← Given.sayAll, ih, List.flatMap_cons,
        List.reverse_append, List.append_assoc]
      rfl

/-- A flag is up behind words exactly where they raise it. -/
theorem has_sayAll {f : Flag} {wanted : Bool} (h : raised f words = wanted.toNat) :
    (Given.sayAll {} words).has f = wanted := by
  rw [sayAll_eq, Given.has, List.append_nil, List.contains_reverse]
  cases wanted with
  | false => simpa using List.count_eq_zero.1 h
  | true => simpa using List.count_pos_iff.1 (h.trans_gt Nat.one_pos)

/-- A flag that two levels share may be raised on either. -/
theorem has_or_has {f : Flag} {wanted : Bool} (h : raised f (outer ++ inner) = wanted.toNat) :
    ((Given.sayAll {} outer).has f || (Given.sayAll {} inner).has f) = wanted := by
  rw [← has_sayAll h, sayAll_eq, sayAll_eq, sayAll_eq]
  simp [Given.has, Bool.or_comm]

theorem Word.Fits.isOn {level : Level} {word : Word} (hfits : word.Fits level) {f : Flag}
    (h : f ∈ word.flags) : f.isOn level = true := by
  cases word with
  | flag g =>
      cases List.mem_singleton.1 h
      exact hfits
  | letters flags endpoint => exact (hfits.1 f h).1
  | file name => cases h
  | apart setting value => cases h
  | attached setting value => cases h

/-- Words that fit a level raise no flag that the level has not. -/
theorem raised_eq_zero {level : Level} (hfits : ∀ word ∈ words, word.Fits level) {f : Flag}
    (hf : f.isOn level = false) : raised f words = 0 := by
  refine List.count_eq_zero.2 fun hmem => ?_
  obtain ⟨word, hword, hflag⟩ := List.mem_flatMap.1 hmem
  rw [(hfits word hword).isOn hflag] at hf
  cases hf

/-- A time limit that fits on a level is a number of 64 bits. -/
theorem Word.Fits.parseWord? {level : Level} {word : Word} (hfits : word.Fits level)
    {text : String} (htext : word.timeout? = some text) {n : Nat}
    (hn : Text.Spells text.toList n) : Text.parseWord? text.toList = some n := by
  have haccepts : Setting.timeout.Accepts text := by
    cases word with
    | apart setting value =>
        cases setting with
        | endpoint => cases htext
        | timeout =>
            cases htext
            exact hfits.1
    | attached setting value =>
        cases setting with
        | endpoint => cases htext
        | timeout =>
            cases htext
            exact hfits
    | file name => cases htext
    | flag f => cases htext
    | letters flags endpoint => cases htext
  obtain ⟨m, hm, hword⟩ := haccepts
  cases hm.unique hn
  exact Text.parseWord?_eq_some_iff.2 ⟨hm, hword⟩

end Sayings

section Levels

variable {args : Arguments} {outer : List Word}

/-- Words that are said once, and flags that are raised once, are new. -/
theorem lacks_of_once {words : List Word} (hfile : (words.filterMap Word.file?).length ≤ 1)
    (hflags : ∀ f, raised f words ≤ 1) (hendpoint : (words.filterMap Word.endpoint?).length ≤ 1)
    (htimeout : (words.filterMap Word.timeout?).length ≤ 1) : Given.Lacks {} words := by
  refine ⟨hfile, ?_, hendpoint, htimeout⟩
  rw [List.append_nil]
  exact List.nodup_iff_count_le_one.2 hflags

/-- A level by itself gives what its words say. -/
theorem readCommand_words {command : Command} {inner : List Word}
    (hfits : ∀ word ∈ inner, word.Fits (some command)) (hnew : Given.Lacks {} inner) :
    readCommand command {} (inner.flatMap Word.arguments) = .ok (Given.sayAll {} inner) := by
  obtain ⟨next, htaken, hnext⟩ := exists_takesAll_words stands_start hfits hnew
  rw [readCommand_of_takesAll htaken, hnext.finish]

/-- Words of the first level are read to just what they say. -/
theorem readLevels_words (hfits : ∀ word ∈ outer, word.Fits none) (hnew : Given.Lacks {} outer) :
    readLevels {} (outer.flatMap Word.arguments) = .ok (Given.sayAll {} outer, none) := by
  obtain ⟨next, htaken, hnext⟩ := exists_takesAll_words stands_start hfits hnew
  have hread : readLevels {} (outer.flatMap Word.arguments ++ []) = readLevels next [] :=
    readLevels_of_takesAll htaken
  rw [List.append_nil] at hread
  rw [hread, readLevels, hnext.finish]
  rfl

/-- Words of both levels, with the name of a command in between, are read to just what they say. -/
theorem readLevels_command {command : Command} {name : String} {inner : List Word}
    (hfits : ∀ word ∈ outer, word.Fits none) (hnew : Given.Lacks {} outer)
    (hname : name ∈ command.names) (hinnerFits : ∀ word ∈ inner, word.Fits (some command))
    (hinnerNew : Given.Lacks {} inner) :
    readLevels {} (outer.flatMap Word.arguments ++ name :: inner.flatMap Word.arguments) =
      .ok (Given.sayAll {} outer, some (command, Given.sayAll {} inner)) := by
  obtain ⟨next, htaken, hnext⟩ := exists_takesAll_words stands_start hfits hnew
  have hverb : commandAt none next name = some (.command command) := by
    rw [commandAt, hnext.awaitsValue, verb?_of_name hname]
    rfl
  rw [readLevels_of_takesAll htaken, readLevels, hverb]
  simp only [readCommand_words hinnerFits hinnerNew, hnext.finish]
  rfl

end Levels

section Spelled

variable {args : Arguments} {outer : List Word} {command : Option (String × List Word)}

theorem length_toList_le {α : Type} (o : Option α) : o.toList.length ≤ 1 := by
  cases o <;> simp

namespace Spells

/-- There is a command exactly if a task is asked for, and then it spells the task. -/
theorem task_cases (h : Spells args outer command) :
    (args.task = none ∧ command = none) ∨
      ∃ task name inner, args.task = some task ∧ command = some (name, inner) ∧
        task.SpelledBy name inner := by
  have htask := h.task
  cases hargs : args.task with
  | none =>
      rw [hargs] at htask
      cases htask
      exact .inl ⟨rfl, rfl⟩
  | some task =>
      rw [hargs] at htask
      cases htask with
      | @some _ spelling hspelled => exact .inr ⟨task, _, _, rfl, rfl, hspelled⟩

/-- The words of the level of the command fit there, wherever that is. -/
theorem inner_fits (h : Spells args outer command) :
    ∃ level : Level, ∀ word ∈ innerWords command, word.Fits level := by
  rcases h.task_cases with ⟨-, rfl⟩ | ⟨task, name, inner, -, rfl, -, -, hfits⟩
  · exact ⟨none, List.forall_mem_nil _⟩
  · exact ⟨_, hfits⟩

theorem outer_raised_le (h : Spells args outer command) (f : Flag) : raised f outer ≤ 1 := by
  have hquiet := h.quiet
  have hnoColor := h.noColor
  have hverbose := h.verbose
  rw [raised_append] at hquiet hnoColor hverbose
  cases f with
  | reverse => exact h.reverse ▸ Bool.toNat_le _
  | quiet => have hone := args.quiet.toNat_le; omega
  | noColor => have hone := args.noColor.toNat_le; omega
  | verbose => have hone := args.verbose.toNat_le; omega
  | showOnly => exact (raised_eq_zero h.fits rfl).le.trans (Nat.zero_le 1)

theorem inner_raised_le (h : Spells args outer command) (f : Flag) :
    raised f (innerWords command) ≤ 1 := by
  have hquiet := h.quiet
  have hnoColor := h.noColor
  have hverbose := h.verbose
  rw [raised_append] at hquiet hnoColor hverbose
  -- A flag that belongs to the other command does not fit, and its own is counted with the task.
  have hown (hf : f = .reverse ∨ f = .showOnly) : raised f (innerWords command) ≤ 1 := by
    rcases h.task_cases with ⟨-, rfl⟩ | ⟨task, name, inner, -, rfl, -, hraised, hfits⟩
    · exact Nat.zero_le 1
    · by_cases hsame : f = task.own.2.1
      · subst hsame
        exact hraised.le.trans (Bool.toNat_le _)
      · refine (raised_eq_zero hfits ?_).le.trans (Nat.zero_le 1)
        rcases hf with rfl | rfl <;> cases task <;> first | rfl | exact absurd rfl hsame
  cases f with
  | reverse => exact hown (.inl rfl)
  | quiet => have hone := args.quiet.toNat_le; omega
  | noColor => have hone := args.noColor.toNat_le; omega
  | verbose => have hone := args.verbose.toNat_le; omega
  | showOnly => exact hown (.inr rfl)

theorem endpoint_length (h : Spells args outer command) :
    (outer.filterMap Word.endpoint?).length +
      ((innerWords command).filterMap Word.endpoint?).length ≤ 1 := by
  rw [← List.length_append, ← List.filterMap_append, h.endpoint]
  exact length_toList_le _

theorem timeout_length (h : Spells args outer command) :
    (outer.filterMap Word.timeout?).length +
      ((innerWords command).filterMap Word.timeout?).length ≤ 1 := by
  obtain ⟨text, htext, -⟩ := h.timeout
  rw [← List.length_append, ← List.filterMap_append, htext]
  exact length_toList_le _

/-- Words that spell arguments say nothing twice on the first level. -/
theorem outer_new (h : Spells args outer command) : Given.Lacks {} outer := by
  have hendpoint := h.endpoint_length
  have htimeout := h.timeout_length
  refine lacks_of_once ?_ h.outer_raised_le (by omega) (by omega)
  rw [h.file]
  exact length_toList_le _

/-- No file is named on the level of a command. -/
theorem inner_file (h : Spells args outer command) :
    (innerWords command).filterMap Word.file? = [] := by
  rcases h.task_cases with ⟨-, rfl⟩ | ⟨task, name, inner, -, rfl, -, -, hfits⟩
  · rfl
  · refine List.filterMap_eq_nil_iff.2 fun word hword => ?_
    cases word with
    | file name => cases (hfits _ hword).1
    | flag f => rfl
    | letters flags endpoint => rfl
    | apart setting value => rfl
    | attached setting value => rfl

/-- Nor do they on the level of a command. -/
theorem inner_new (h : Spells args outer command) : Given.Lacks {} (innerWords command) := by
  have hendpoint := h.endpoint_length
  have htimeout := h.timeout_length
  refine lacks_of_once ?_ h.inner_raised_le (by omega) (by omega)
  rw [h.inner_file]
  exact Nat.zero_le 1

/-- The time limit is read from its one spelling. -/
theorem timeout_read (h : Spells args outer command) :
    ((outer ++ innerWords command).filterMap Word.timeout?).filterMap
      (fun t => Text.parseWord? t.toList) = args.timeoutSecs.toList := by
  obtain ⟨text, htext, hspelled⟩ := h.timeout
  have hmem : ∀ t ∈ text, ∃ word level, Word.Fits level word ∧ word.timeout? = some t := by
    intro t ht
    obtain ⟨level, hlevel⟩ := h.inner_fits
    have hlist : t ∈ (outer ++ innerWords command).filterMap Word.timeout? := by
      rw [htext]
      exact Option.mem_toList.2 ht
    obtain ⟨word, hword, ht⟩ := List.mem_filterMap.1 hlist
    rcases List.mem_append.1 hword with hword | hword
    · exact ⟨word, none, h.fits word hword, ht⟩
    · exact ⟨word, level, hlevel word hword, ht⟩
  rw [htext]
  generalize args.timeoutSecs = limit at hspelled
  cases hspelled with
  | none => rfl
  | @some t n hn =>
      obtain ⟨word, level, hfits, ht⟩ := hmem t rfl
      exact List.filterMap_cons_some (hfits.parseWord? ht hn)

/-- What the words of the levels say together is what is asked for. -/
theorem ofLevels_eq (h : Spells args outer command) {level : Option (Command × Given)}
    (hinner : level.elim {} Prod.snd = Given.sayAll {} (innerWords command))
    (htask : level.map (fun (command, given) => taskOf command given) = args.task) :
    Arguments.ofLevels (Given.sayAll {} outer, level) = args := by
  have hendpoint := congrArg List.getLast? h.endpoint
  have htimeout := congrArg List.getLast? h.timeout_read
  rw [List.filterMap_append, List.getLast?_append] at hendpoint
  rw [List.filterMap_append, List.filterMap_append, List.getLast?_append] at htimeout
  have hquiet := has_or_has h.quiet
  have hnoColor := has_or_has h.noColor
  have hverbose := has_or_has h.verbose
  have hreverse := has_sayAll h.reverse
  have hfile : (Given.sayAll {} outer).file = args.file := by
    rw [sayAll_eq, h.file]
    cases args.file <;> rfl
  rw [Arguments.ofLevels]
  simp only [hinner, htask, hquiet, hnoColor, hverbose, hreverse, hfile]
  rw [sayAll_eq, sayAll_eq]
  simp only [Option.or_none, hendpoint, htimeout]
  cases args with
  | mk file reverse endpoint timeoutSecs quiet noColor verbose task =>
      cases endpoint <;> cases timeoutSecs <;> rfl

/-- A command line that spells arguments is read as just these. -/
theorem parse_eq (h : Spells args outer command) : parse (lineOf outer command) = .ok args := by
  have houter := h.outer_new
  have hinner := h.inner_new
  rcases h.task_cases with ⟨htask, rfl⟩ | ⟨task, name, inner, htask, rfl, hname, hraised, hfits⟩
  · rw [parse, lineOf, Option.elim_none, List.append_nil, readLevels_words h.fits houter]
    exact congrArg Except.ok (h.ofLevels_eq rfl htask.symm)
  · rw [parse, lineOf, Option.elim_some, readLevels_command h.fits houter hname hfits hinner]
    refine congrArg Except.ok (h.ofLevels_eq rfl ?_)
    have hown := has_sayAll hraised
    rw [htask, Option.map_some]
    cases task with
    | interactive reverse => exact congrArg (fun b => some (Task.interactive b)) hown
    | configure showOnly => exact congrArg (fun b => some (Task.configure b)) hown

end Spells

/-- Whatever can be asked for can be spelled, and every command line that spells it is read as just
that, in whatever order it says things and wherever the options of both levels stand. -/
theorem parse_lineOf (args : Arguments) :
    (args.Sayable → ∃ outer command, Spells args outer command) ∧
      ∀ outer command, Spells args outer command → parse (lineOf outer command) = .ok args :=
  ⟨fun h => h.exists_spells, fun _ _ h => h.parse_eq⟩

/-- An interactive run in the reverse direction against an endpoint that is named like the command,
with options of the service and the output. -/
def namesakeArguments : Arguments where
  endpoint := some "interactive"
  timeoutSecs := some 5
  quiet := true
  verbose := true
  task := some (.interactive true)

/-- The endpoint stands apart and looks like a command, the limit has a sign and a leading zero, and
the options stand on both sides of the command. -/
theorem parse_namesake :
    (∃ outer command, Spells namesakeArguments outer command) ∧
      parse ["-qe", "interactive", "--timeout=+05", "i", "--reverse", "--verbose"] =
        .ok namesakeArguments := by
  refine ⟨(parse_lineOf namesakeArguments).1 ⟨?_, ?_, ?_, .inr rfl⟩,
    (parse_lineOf namesakeArguments).2
      [.letters [.quiet] (some "interactive"), .attached .timeout "+05"]
      (some ("i", [.flag .reverse, .flag .verbose])) ?_⟩
  · decide
  · decide
  · decide
  · have hfive : Text.Spells "+05".toList 5 := Text.spells_iff_dropPlus.2 (by decide)
    constructor
    case fits =>
      rw [List.forall_mem_cons, List.forall_mem_singleton]
      exact ⟨⟨by decide, by decide, by decide⟩, 5, hfive, by decide⟩
    case task =>
      refine .some ⟨by decide, by decide, ?_⟩
      rw [List.forall_mem_cons, List.forall_mem_singleton]
      exact ⟨rfl, rfl⟩
    case timeout => exact ⟨some "+05", rfl, .some hfive⟩
    all_goals decide

end Spelled

end QueryBridge.CommandLine
