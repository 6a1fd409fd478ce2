import QueryBridge.Proofs.Settings.Saving
import QueryBridge.Proofs.Text.Spelling
import QueryBridge.Terminal.Dialogue

/-!
# Saved answers are settings that resolve

The dialogue about settings checks an answer before it takes it, and a run checks the settings in
the file once more. The two checks agree: what passed the questions, was saved and is loaded again,
resolves to the very endpoint and time limit that were answered (`saved_answers_resolve`). Whatever
is typed, the dialogue ends with no other settings (`Dialogue.sound_run`).
-/

set_option autoImplicit false

namespace QueryBridge

open QueryBridge.Files

/-! ## What the checks let pass -/

namespace Settings

variable {commandLine file : Settings} {connection : Connection} {s : String} {n : Nat}

/-- Settings resolve if the endpoint chosen is a web address and the time limit chosen is not zero,
and then to just these two. -/
theorem resolve_eq_ok_iff :
    resolve commandLine file = .ok connection ↔
      Endpoint.validate (chosenEndpoint commandLine file) = .ok () ∧
        chosenTimeout commandLine file ≠ 0 ∧
        connection = ⟨chosenEndpoint commandLine file, chosenTimeout commandLine file⟩ := by
  rw [resolve]
  cases hcheck : Endpoint.validate (chosenEndpoint commandLine file) with
  | error report => simp
  | ok _ =>
      by_cases hzero : chosenTimeout commandLine file = 0
      · simp [hzero]
      · simp [hzero, eq_comm]

/-- A time limit is the number that the trimmed text spells, unless it is zero or too large. -/
theorem parseTimeout_eq_ok_iff :
    parseTimeout s = .ok n ↔
      Text.Spells (Text.trim s.toList) n ∧ n ≤ Text.maxWord ∧ 1 ≤ n := by
  rw [parseTimeout, ← and_assoc, ← Text.parseWord?_eq_some_iff]
  cases hword : Text.parseWord? (Text.trim s.toList) with
  | none => simp
  | some secs =>
      by_cases hzero : secs = 0
      · subst hzero
        simp only [if_true, reduceCtorEq, Option.some.injEq, false_iff, not_and]
        rintro rfl
        exact Nat.not_succ_le_zero 0
      · simp only [if_neg hzero, Except.ok.injEq, Option.some.injEq]
        constructor
        · rintro rfl
          exact ⟨rfl, Nat.one_le_iff_ne_zero.2 hzero⟩
        · exact And.left

end Settings

namespace Configure

variable {stored settings : Settings} {line answer endpoint : String}

/-- The endpoint in an answer: the answer without the white space around it. -/
def trimmed (answer : String) : String :=
  String.ofList (Text.trim answer.toList)

/-- An answer gives an address exactly where it is a valid one once it is trimmed. -/
theorem endpointOf_eq_ok_iff :
    endpointOf answer = .ok endpoint ↔
      Endpoint.validate (trimmed answer) = .ok () ∧ endpoint = trimmed answer := by
  -- Unfolding by the equation of `endpointOf` would set out to evaluate the check.
  delta endpointOf trimmed
  dsimp only
  cases hcheck : Endpoint.validate (String.ofList (Text.trim answer.toList)) with
  | error report => simp
  | ok _ => simp [eq_comm]

/-- Two answers that passed the checks of their questions, the second one with the number `n`. -/
structure Passes (endpointAnswer timeoutAnswer : String) (n : Nat) : Prop where
  endpoint : Endpoint.validate (trimmed endpointAnswer) = .ok ()
  timeout : Settings.parseTimeout timeoutAnswer = .ok n

/-- The settings that two answers give. -/
def given (endpointAnswer : String) (n : Nat) : Settings :=
  ⟨some (trimmed endpointAnswer), some n⟩

/-- Two lines that stand for answers that pass. -/
def LinesPass (stored : Settings) (first second : String) (n : Nat) : Prop :=
  Passes ((endpointQuestion stored).answer first) ((timeoutQuestion stored).answer second) n

/-- The settings that two lines give. -/
def givenBy (stored : Settings) (first : String) (n : Nat) : Settings :=
  given ((endpointQuestion stored).answer first) n

namespace Stage

/-- What a stage holds stems from answers that passed. -/
def Sound (stored : Settings) : Stage → Prop
  | .askEndpoint => True
  | .askTimeout endpoint => ∃ line,
    endpointOf ((endpointQuestion stored).answer line) = .ok endpoint
  | .answered settings => ∃ first second n, LinesPass stored first second n ∧
      settings = givenBy stored first n

/-- The first question is followed by the second one, if the answer gives an address. -/
theorem take_askEndpoint_eq_ok_iff {next : Stage} :
    Stage.askEndpoint.take stored line = .ok next ↔
      ∃ endpoint, endpointOf ((endpointQuestion stored).answer line) = .ok endpoint ∧
        next = .askTimeout endpoint := by
  delta Stage.take
  dsimp only
  generalize endpointOf _ = answered
  cases answered with
  | error report => simp
  | ok endpoint => simp [eq_comm]

/-- The second question ends the dialogue, if the answer gives a time. -/
theorem take_askTimeout_eq_ok_iff {next : Stage} :
    (Stage.askTimeout endpoint).take stored line = .ok next ↔
      ∃ n, Settings.parseTimeout ((timeoutQuestion stored).answer line) = .ok n ∧
        next = .answered ⟨some endpoint, some n⟩ := by
  delta Stage.take
  dsimp only
  generalize Settings.parseTimeout _ = answered
  cases answered with
  | error report => simp
  | ok n => simp [eq_comm]

/-- A stage that takes a line stays sound. -/
theorem Sound.take {stage next : Stage} (h : stage.Sound stored)
    (htake : stage.take stored line = .ok next) : next.Sound stored := by
  cases stage with
  | askEndpoint =>
      obtain ⟨endpoint, hendpoint, rfl⟩ := take_askEndpoint_eq_ok_iff.1 htake
      exact ⟨line, hendpoint⟩
  | askTimeout endpoint =>
      obtain ⟨first, hfirst⟩ := h
      obtain ⟨hvalid, rfl⟩ := endpointOf_eq_ok_iff.1 hfirst
      obtain ⟨n, hn, rfl⟩ := take_askTimeout_eq_ok_iff.1 htake
      exact ⟨first, line, n, ⟨hvalid, hn⟩, rfl⟩
  | answered settings =>
      cases htake
      exact h

end Stage

end Configure

namespace Terminal.Dialogue

open QueryBridge.Configure

variable {stored settings : Settings} {dialogue next : Dialogue}

/-- Whatever key is pressed, the stage of the dialogue stays sound. -/
theorem sound_step (h : dialogue.stage.Sound stored) {gesture : Gesture}
    (hstep : dialogue.step stored gesture = .ok next) : next.stage.Sound stored := by
  cases gesture with
  | pause =>
      cases hstep
      exact h
  | key key =>
      simp only [step] at hstep
      split at hstep
      · cases hstep
        exact h
      · rename_i line hpress
        cases hstep
        -- Only a line that is handed over moves the dialogue on, and only if it passes.
        rw [submit]
        split
        · rename_i stage htake
          exact h.take htake
        · exact h
      · cases hstep

theorem answered_of_settings? (h : dialogue.settings? = some settings) :
    dialogue.stage = .answered settings := by
  rw [settings?] at h
  split at h
  · rename_i given hstage
    rw [hstage, Option.some.inj h]
  · cases h
  · cases h

/-- The settings that a run of the dialogue ends with were given by answers that passed. -/
theorem sound_run (h : dialogue.stage.Sound stored) {gestures : List Gesture}
    (hrun : dialogue.run stored gestures = .ok settings) :
    (Stage.answered settings).Sound stored := by
  induction gestures generalizing dialogue with
  | nil =>
      rw [run] at hrun
      cases hgiven : dialogue.settings? with
      | none =>
          rw [hgiven] at hrun
          cases hrun
      | some given =>
          rw [hgiven] at hrun
          cases hrun
          exact answered_of_settings? hgiven ▸ h
  | cons gesture rest ih =>
      rw [run] at hrun
      split at hrun
      · rename_i given hgiven
        cases hrun
        exact answered_of_settings? hgiven ▸ h
      · split at hrun
        · rename_i next hstep
          exact ih (sound_step h hstep) hrun
        · cases hrun

end Terminal.Dialogue

namespace Configure

open QueryBridge.Terminal

section Saved

variable {first second endpointAnswer timeoutAnswer : String} {n : Nat}

/-- A time that passes is positive and fits in 64 bits. -/
theorem Passes.range (h : Passes endpointAnswer timeoutAnswer n) : 1 ≤ n ∧ n ≤ Text.maxWord := by
  obtain ⟨-, hword, hpos⟩ := Settings.parseTimeout_eq_ok_iff.1 h.timeout
  exact ⟨hpos, hword⟩

/-- Without settings on the command line, settings of answers that passed resolve to the answers. -/
theorem Passes.resolve (h : Passes endpointAnswer timeoutAnswer n) :
    Settings.resolve {} (given endpointAnswer n) = .ok ⟨trimmed endpointAnswer, n⟩ := by
  apply Settings.resolve_eq_ok_iff.2
  refine ⟨h.endpoint, ?_, rfl⟩
  have hpos : 1 ≤ n := h.range.1
  exact Nat.ne_of_gt hpos

/-- Where settings of answers that passed were saved, they are what is loaded. -/
theorem Passes.load (h : Passes endpointAnswer timeoutAnswer n) {files after : Tree} {path : Path}
    (hsaved : conclude files path (given endpointAnswer n) = (after, .ok ())) :
    Settings.load after path = .ok (given endpointAnswer n) ∧
      Settings.loadOrDefault after path = .ok (given endpointAnswer n) := by
  have htimeout : ∀ secs ∈ (given endpointAnswer n).timeoutSecs, secs ≤ Text.maxWord := by
    rintro secs ⟨⟩
    exact h.range.2
  have hsave : Settings.save files path (given endpointAnswer n) = (after, .ok ()) := by
    rw [conclude] at hsaved
    split at hsaved
    · rename_i tree hrun
      cases hsaved
      exact hrun
    · cases hsaved
  have hfind := Settings.find_of_save hsave
  exact ⟨Settings.load_of_find htimeout hfind, Settings.loadOrDefault_of_find htimeout hfind⟩

/-- Lines whose answers pass lead the dialogue to the settings of the answers. -/
theorem LinesPass.take {stored : Settings} (h : LinesPass stored first second n) :
    ∃ stage, Stage.askEndpoint.take stored first = .ok stage ∧
      stage.take stored second = .ok (.answered (givenBy stored first n)) := by
  have hendpoint := endpointOf_eq_ok_iff.2 ⟨h.endpoint, rfl⟩
  refine ⟨.askTimeout (trimmed ((endpointQuestion stored).answer first)), ?_, ?_⟩
  · exact Stage.take_askEndpoint_eq_ok_iff.2 ⟨_, hendpoint, rfl⟩
  · exact Stage.take_askTimeout_eq_ok_iff.2 ⟨n, h.timeout, rfl⟩

/-- The dialogue about settings, whatever was set before, takes every pair of answers that pass.
Where the settings that they give were saved, they load again and resolve, with nothing set on the
command line, to the trimmed endpoint and the number of seconds that were answered. However the
dialogue went, it ends with no other settings. -/
theorem saved_answers_resolve (stored : Settings) :
    (∀ first second n, LinesPass stored first second n →
      (1 ≤ n ∧ n ≤ Text.maxWord) ∧
        (∃ stage, Stage.askEndpoint.take stored first = .ok stage ∧
          stage.take stored second = .ok (.answered (givenBy stored first n))) ∧
        ∀ files path after, conclude files path (givenBy stored first n) = (after, .ok ()) →
          Settings.load after path = .ok (givenBy stored first n) ∧
            Settings.loadOrDefault after path = .ok (givenBy stored first n) ∧
            Settings.resolve {} (givenBy stored first n) =
              .ok ⟨trimmed ((endpointQuestion stored).answer first), n⟩) ∧
      ∀ gestures settings, Dialogue.run stored {} gestures = .ok settings →
        ∃ first second n, LinesPass stored first second n ∧ settings = givenBy stored first n := by
  constructor
  · intro first second n hpass
    refine ⟨hpass.range, hpass.take, ?_⟩
    intro files path after hsaved
    obtain ⟨hload, hdefault⟩ := Passes.load hpass hsaved
    exact ⟨hload, hdefault, Passes.resolve hpass⟩
  · intro gestures settings hrun
    have hstart : ({} : Dialogue).stage.Sound stored := trivial
    exact Dialogue.sound_run hstart hrun

/-- The keys that type an endpoint between blanks, and a time limit with a sign and a zero. -/
def paddedKeys : List Gesture :=
  gesturesOf " http://h:1/a ".toList ++ [.key .enter] ++ gesturesOf " +045".toList ++ [.key .enter]

/-- Settings whose endpoint is of no use. -/
def strandedSettings : Settings := ⟨some "ftp://h", none⟩

/-- An endpoint between blanks and a time limit with a sign and a zero in front are saved below a
directory that is missing, and resolve. -/
theorem saved_paddedKeys :
    ∃ settings after, Dialogue.run strandedSettings {} paddedKeys = .ok settings ∧
      (∃ first second n, LinesPass strandedSettings first second n ∧
        settings = givenBy strandedSettings first n) ∧
      conclude {} (.ofString "c/qtr/config.toml") settings = (after, .ok ()) ∧
      Settings.loadOrDefault after (.ofString "c/qtr/config.toml") = .ok settings ∧
      Settings.resolve {} settings = .ok ⟨"http://h:1/a", 45⟩ := by
  have hpass : LinesPass strandedSettings " http://h:1/a " " +045" 45 := ⟨by rfl, by rfl⟩
  have hrun : Dialogue.run strandedSettings {} paddedKeys =
      .ok (givenBy strandedSettings " http://h:1/a " 45) := by
    rfl
  obtain ⟨hanswered, hends⟩ := saved_answers_resolve strandedSettings
  obtain ⟨-, -, hsaved⟩ := hanswered _ _ _ hpass
  obtain ⟨-, hdefault, hresolve⟩ := hsaved {} (.ofString "c/qtr/config.toml") _
    (Prod.ext rfl (by rfl))
  exact ⟨_, _, hrun, hends paddedKeys _ hrun, Prod.ext rfl (by rfl), hdefault, hresolve⟩

end Saved

end Configure

end QueryBridge
