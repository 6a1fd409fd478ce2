import QueryBridge.Program
import QueryBridge.Proofs.Settings.Answers

/-!
# Overridden settings have no influence

A setting is taken from the first source that has it (`ChosenFrom`), whatever becomes of the other
setting. What the settings resolve to depends on the two values chosen and on nothing else
(`resolve_congr`), and the endpoint is checked first (`Judged`). So two settings files that differ
only where the command line overrides them (`AlikeUnder`) give the same result, be the values that
are overridden valid or not, and a run prints and sends the same with either (`Exit.Shows`). A value
of the command line that is not valid is an error whatever the file says. The main result is
`overridden_settings_have_no_influence`.
-/

set_option autoImplicit false

namespace QueryBridge

namespace Settings

/-! ## Where a value comes from -/

/-- A setting has the value of the command line, else that of the file, else the one that is built
in. -/
inductive ChosenFrom {α : Type} (builtIn : α) : Option α → Option α → α → Prop
  | commandLine (value : α) (file : Option α) : ChosenFrom builtIn (some value) file value
  | file (value : α) : ChosenFrom builtIn none (some value) value
  | builtIn : ChosenFrom builtIn none none builtIn

/-- The value that comes first is chosen: that of the command line, of the file, or the one built
in. -/
theorem chosenFrom_iff {α : Type} {builtIn value : α} {commandLine file : Option α} :
    ChosenFrom builtIn commandLine file value ↔ (commandLine.or file).getD builtIn = value := by
  constructor
  · rintro (_ | _ | _)
    · rfl
    · rfl
    · rfl
  · rintro rfl
    cases commandLine with
    | some value => exact .commandLine value file
    | none =>
        cases file with
        | some value => exact .file value
        | none => exact .builtIn

/-- The endpoint and the time limit chosen for a run. -/
structure Chosen (commandLine file : Settings) (endpoint : String) (secs : Nat) : Prop where
  endpoint : ChosenFrom defaultEndpoint commandLine.endpoint file.endpoint endpoint
  timeout : ChosenFrom defaultTimeout commandLine.timeoutSecs file.timeoutSecs secs

/-- Two settings files are alike where a command line leaves a setting to them. -/
structure AlikeUnder (commandLine file other : Settings) : Prop where
  endpoint : commandLine.endpoint = none → file.endpoint = other.endpoint
  timeout : commandLine.timeoutSecs = none → file.timeoutSecs = other.timeoutSecs

section Chosen

variable {commandLine commandLine' file other : Settings} {endpoint : String} {secs : Nat}
  {report : Report}

theorem chosen_iff : Chosen commandLine file endpoint secs ↔
    chosenEndpoint commandLine file = endpoint ∧ chosenTimeout commandLine file = secs := by
  rw [chosenEndpoint, chosenTimeout, ← chosenFrom_iff, ← chosenFrom_iff]
  exact ⟨fun h => ⟨h.endpoint, h.timeout⟩, fun h => ⟨h.1, h.2⟩⟩

/-- What settings resolve to depends on the two values chosen. -/
theorem resolve_congr
    (hendpoint : chosenEndpoint commandLine file = chosenEndpoint commandLine' other)
    (htimeout : chosenTimeout commandLine file = chosenTimeout commandLine' other) :
    resolve commandLine file = resolve commandLine' other := by
  rw [resolve, resolve, hendpoint, htimeout]

/-- Either way a value is chosen from the command line, or from files that agree on it. -/
theorem or_congr_of_none {α : Type} {set left right : Option α} (h : set = none → left = right) :
    set.or left = set.or right := by
  cases set with
  | some value => rfl
  | none => rw [h rfl]

/-- Files that are alike but for what is overridden resolve alike. -/
theorem AlikeUnder.resolve_eq (h : AlikeUnder commandLine file other) :
    resolve commandLine file = resolve commandLine other := by
  apply resolve_congr
  · rw [chosenEndpoint, chosenEndpoint, or_congr_of_none h.endpoint]
  · rw [chosenTimeout, chosenTimeout, or_congr_of_none h.timeout]

/-! ## Which error comes first -/

/-- What comes of a chosen endpoint and a chosen time limit: both as they are if both are valid,
else the complaint about the endpoint, else the one about the time limit. -/
structure Judged (endpoint : String) (secs : Nat) (result : Fallible Connection) : Prop where
  valid : ∀ connection, result = .ok connection ↔
    Endpoint.validate endpoint = .ok () ∧ secs ≠ 0 ∧ connection = ⟨endpoint, secs⟩
  endpointFirst : ∀ report, Endpoint.validate endpoint = .error report → result = .error report
  timeoutNext : Endpoint.validate endpoint = .ok () → secs = 0 → result = .error ⟨zeroTimeout, []⟩

theorem resolve_of_invalid
    (h : Endpoint.validate (chosenEndpoint commandLine file) = .error report) :
    resolve commandLine file = .error report := by
  rw [resolve, h]

/-- What is resolved depends on the chosen address and the chosen time only. -/
theorem Chosen.judged (h : Chosen commandLine file endpoint secs) :
    Judged endpoint secs (resolve commandLine file) := by
  obtain ⟨rfl, rfl⟩ := chosen_iff.1 h
  constructor
  · intro connection
    exact resolve_eq_ok_iff
  · intro report hinvalid
    exact resolve_of_invalid hinvalid
  · intro hvalid hzero
    rw [resolve, hvalid]
    dsimp only
    rw [if_pos hzero]

/-- A time of zero on the command line is never taken. -/
theorem resolve_ne_ok_of_zero (h : commandLine.timeoutSecs = some 0) (connection : Connection) :
    resolve commandLine file ≠ .ok connection := by
  intro hok
  have hzero : chosenTimeout commandLine file = 0 := by
    rw [chosenTimeout, h]
    rfl
  exact (resolve_eq_ok_iff.1 hok).2.1 hzero

theorem exists_report_of_ne_ok {α : Type} {result : Fallible α} (h : ∀ a, result ≠ .ok a) :
    ∃ report, result = .error report := by
  cases result with
  | error report => exact ⟨report, rfl⟩
  | ok a => exact absurd rfl (h a)

end Chosen

end Settings

/-! ## Whole runs -/

/-- Two worlds in which a run with settings on its command line finds the same, but for settings
that are overridden. -/
structure World.AlikeUnder (commandLine : Settings) (world other : World) : Prop where
  stored : ∃ path path' file file', world.storedSettings = .ok (path, file) ∧
    other.storedSettings = .ok (path', file') ∧ Settings.AlikeUnder commandLine file file'
  network : world.network = other.network

/-- In worlds that are alike but for what is overridden, the connection is the same. -/
theorem World.AlikeUnder.connection_eq {commandLine : Settings} {world other : World}
    (h : World.AlikeUnder commandLine world other) :
    world.connection commandLine = other.connection commandLine := by
  obtain ⟨path, path', file, file', hstored, hother, halike⟩ := h.stored
  rw [World.connection, World.connection, hstored, hother]
  exact halike.resolve_eq

namespace Program

/-- Two exits are the same in what a user and the service see of them. -/
structure Exit.Shows (exit other : Exit) : Prop where
  code : exit.code = other.code
  out : exit.out = other.out
  err : exit.err = other.err
  received : exit.received = other.received

/-- The runs of a command line look the same in two worlds: a conversion where the query is the
same, and every interactive session. -/
structure RunsAlike (arguments : CommandLine.Arguments) (mode : OutputMode) (world other : World) :
    Prop where
  converts : OneShot.query world (jobOf arguments).file =
      OneShot.query other (jobOf arguments).file →
    (convert world mode (jobOf arguments)).Shows (convert other mode (jobOf arguments))
  interacts : ∀ user now d,
    (interact world mode user now d (settingsOf arguments)).Shows
      (interact other mode user now d (settingsOf arguments))

section Runs

variable {world other : World} {commandLine : Settings} {job : OneShot.Job}

theorem run_of_alikeUnder (h : World.AlikeUnder job.settings world other)
    (hquery : OneShot.query world job.file = OneShot.query other job.file) (quiet : Bool) :
    OneShot.run world quiet job = OneShot.run other quiet job := by
  rw [OneShot.run, OneShot.run, h.connection_eq, hquery, h.network]

theorem convert_of_alikeUnder (h : World.AlikeUnder job.settings world other)
    (hquery : OneShot.query world job.file = OneShot.query other job.file) (mode : OutputMode) :
    (convert world mode job).Shows (convert other mode job) := by
  have hrun := run_of_alikeUnder h hquery mode.quiet
  constructor
  · rw [convert, convert, hrun]
  · rw [convert, convert, hrun]
  · rw [convert, convert, hrun]
  · rw [convert, convert, hrun]
    dsimp only
    rw [OneShot.deliveries, OneShot.deliveries, h.connection_eq, h.network]

/-- An interactive session shows the same, since it reads no query. -/
theorem interact_of_alikeUnder (h : World.AlikeUnder commandLine world other) (mode : OutputMode)
    (user : Option User) (now : Instant) (d : Direction) :
    (interact world mode user now d commandLine).Shows
      (interact other mode user now d commandLine) := by
  have hnetwork : networkFor world = networkFor other := by
    funext behaviours number
    rw [networkFor, networkFor, h.network]
  rw [interact, interact, h.connection_eq, hnetwork]
  cases other.connection commandLine with
  | error report => exact ⟨rfl, rfl, rfl, rfl⟩
  | ok connection => exact ⟨rfl, rfl, rfl, rfl⟩

/-- Whatever a command line asks for, worlds that are alike but for what it overrides show the
same. -/
theorem runsAlike {arguments : CommandLine.Arguments}
    (h : World.AlikeUnder (settingsOf arguments) world other) (mode : OutputMode) :
    RunsAlike arguments mode world other where
  converts := fun hquery => convert_of_alikeUnder h hquery mode
  interacts := interact_of_alikeUnder h mode

end Runs

end Program

namespace Settings

/-- For every command line and every settings file there are the endpoint and the time limit of the
first source that has one, each for itself, and they alone decide: the settings resolve to just
these two if the endpoint is a web address and the time limit is not zero; else the error is that of
the endpoint if the endpoint has one, whatever the time limits are, and that of the time limit
otherwise. Files that differ only in values that the command line overrides give the same result and
the same runs; a value of the command line that is not valid is an error with every file. -/
theorem overridden_settings_have_no_influence :
    (∀ commandLine file, ∃ endpoint secs, Chosen commandLine file endpoint secs) ∧
      (∀ commandLine file endpoint secs, Chosen commandLine file endpoint secs →
        Judged endpoint secs (resolve commandLine file)) ∧
      (∀ commandLine file commandLine' file' endpoint secs,
        Chosen commandLine file endpoint secs → Chosen commandLine' file' endpoint secs →
        resolve commandLine file = resolve commandLine' file') ∧
      (∀ commandLine file other, AlikeUnder commandLine file other →
        resolve commandLine file = resolve commandLine other) ∧
      (∀ commandLine endpoint report, commandLine.endpoint = some endpoint →
        Endpoint.validate endpoint = .error report →
        ∀ file, resolve commandLine file = .error report) ∧
      (∀ commandLine : Settings, commandLine.timeoutSecs = some 0 →
        ∀ file, ∃ report, resolve commandLine file = .error report) ∧
      ∀ (arguments : CommandLine.Arguments) (world other : World) (mode : OutputMode),
        World.AlikeUnder (Program.settingsOf arguments) world other →
        Program.RunsAlike arguments mode world other := by
  refine ⟨?_, ?_, ?_, ?_, ?_, ?_, ?_⟩
  · intro commandLine file
    exact ⟨_, _, chosen_iff.2 ⟨rfl, rfl⟩⟩
  · intro commandLine file endpoint secs h
    exact h.judged
  · intro commandLine file commandLine' file' endpoint secs h h'
    obtain ⟨rfl, rfl⟩ := chosen_iff.1 h
    obtain ⟨hendpoint, htimeout⟩ := chosen_iff.1 h'
    exact resolve_congr hendpoint.symm htimeout.symm
  · intro commandLine file other h
    exact h.resolve_eq
  · intro commandLine endpoint report hset hinvalid file
    apply resolve_of_invalid
    rw [chosenEndpoint, hset]
    exact hinvalid
  · intro commandLine hzero file
    exact exists_report_of_ne_ok (resolve_ne_ok_of_zero hzero)
  · intro arguments world other mode h
    exact Program.runsAlike h mode

/-- Nonsense in the file does no harm where the command line overrides it, and a sound file does not
make up for nonsense on the command line. -/
theorem overridden_nonsense_resolves :
    resolve ⟨some "http://h:1", some 5⟩ ⟨some "ftp://h", some 0⟩ = .ok ⟨"http://h:1", 5⟩ ∧
      resolve ⟨some "ftp://h", some 0⟩ ⟨some "http://h:1", some 5⟩ =
        .error ⟨Endpoint.schemeComplaint "ftp://h", []⟩ ∧
      ∃ report, resolve ⟨none, some 0⟩ ⟨some "http://h:1", some 5⟩ = .error report := by
  obtain ⟨-, -, -, halike, hendpoint, htimeout, -⟩ := overridden_settings_have_no_influence
  refine ⟨?_, hendpoint _ "ftp://h" _ rfl (by rfl) _, htimeout _ rfl _⟩
  have hunset : AlikeUnder ⟨some "http://h:1", some 5⟩ ⟨some "ftp://h", some 0⟩ {} :=
    ⟨by simp, by simp⟩
  rw [halike _ _ _ hunset]
  rfl

end Settings

end QueryBridge
