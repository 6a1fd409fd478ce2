import QueryBridge.Program
import QueryBridge.Proofs.OneShot.Query

/-!
# A one-shot run sends one request or none

Converting a query calls the service once, with the query as it is, unless the query is blank
(`convert_of_blank`, `convert_of_not_blank`). A whole run gets as far as that exactly where its
settings resolve and its input is text that may be sent (`Ready`). It then makes the call
(`run_of_ready`), prints the outcome and says by its exit status whether that is a failure
(`convert_of_finish`); in every other case it fails before the call and prints nothing
(`convert_of_not_ready`). The two together are `sends_once_or_fails`.
-/

set_option autoImplicit false

namespace QueryBridge

open QueryBridge.Files

/-! ## Converting a query -/

namespace OneShot

section Convert

variable (answer : Request → Outcome) (d : Direction) {text : String}

/-- A blank text is refused without a call. -/
theorem convert_of_blank (h : Text.isBlank text.toList = true) :
    convert answer d text = (.error emptyInput, []) := by
  cases d <;>
    simp [convert, prepared, Session.submit, Session.new, Session.setDirection, Session.edit,
      SessionState.isBusy, SessionState.activeInput, SessionState.input, h]

/-- The session hands the query on as it is, and the outcome that arrives is the one that it
shows. -/
theorem convert_of_not_blank (h : Text.isBlank text.toList = false) :
    convert answer d text = (.ok (answer ⟨d, text⟩), [⟨d, text⟩]) := by
  cases d <;>
    simp [convert, prepared, Session.submit, Session.send, Session.pending?, Session.complete?,
      Session.applyOutcome, Session.reach, Session.new, Session.setDirection, Session.edit,
      SessionState.isBusy, SessionState.activeInput, SessionState.input, List.findIdx?_cons, h]

/-- The complaint about a blank query is given for blank queries, and no request goes out then. -/
theorem convert_eq_emptyInput_iff :
    (convert answer d text).1 = .error emptyInput ↔ Text.isBlank text.toList = true := by
  cases hblank : Text.isBlank text.toList with
  | true => simp [convert_of_blank answer d hblank]
  | false => simp [convert_of_not_blank answer d hblank]

/-- A conversion never ends without an outcome that it waited for. -/
theorem convert_ne_noResult (text : String) : (convert answer d text).1 ≠ .error noResult := by
  cases hblank : Text.isBlank text.toList with
  | true =>
      rw [convert_of_blank answer d hblank]
      simp [emptyInput, noResult]
  | false =>
      rw [convert_of_not_blank answer d hblank]
      intro h
      cases h

end Convert

/-! ## Getting as far as the call -/

/-- The octets of the input of a run, if it can be read. -/
def inputOctets (world : World) (file : Option Path) : Option (List UInt8) :=
  match file with
  | none => some world.standardInput
  | some path =>
    if path.isDash then some world.standardInput else (world.files.read path).toOption

/-- The settings of a run resolve, and its input can be read and is the UTF-8 of a text that is not
too long and not blank. -/
structure Ready (world : World) (job : Job) (connection : Connection) (text : String) : Prop where
  settings : ∃ path file, world.environment.settingsPath = .ok path ∧
    Settings.loadOrDefault world.files path = .ok file ∧
    Settings.resolve job.settings file = .ok connection
  input : inputOctets world job.file = some (Text.Utf8.encode text.toList)
  notTooLong : (Text.Utf8.encode text.toList).length ≤ QueryInput.maxOctets
  notBlank : Text.isBlank text.toList = false

section Ready

variable {world : World} {job : Job} {connection : Connection} {text : String}
  {file : Option Path} {octets : List UInt8}

/-- The settings of a run are those of its file, resolved with those of the command line. -/
theorem connection_eq_ok_iff {commandLine : Settings} :
    world.connection commandLine = .ok connection ↔
      ∃ path file, world.environment.settingsPath = .ok path ∧
        Settings.loadOrDefault world.files path = .ok file ∧
        Settings.resolve commandLine file = .ok connection := by
  rw [World.connection, World.storedSettings]
  cases world.environment.settingsPath with
  | error report => simp
  | ok path =>
      dsimp only
      cases hload : Settings.loadOrDefault world.files path with
      | error report => simp [hload]
      | ok file => simp [hload]

/-- The query of a run is the text whose octets the input has. -/
theorem read_eq_ok_iff :
    QueryInput.read world.files world.standardInput file = .ok text ↔
      inputOctets world file = some (Text.Utf8.encode text.toList) ∧
        (Text.Utf8.encode text.toList).length ≤ QueryInput.maxOctets := by
  -- Wherever the octets come from, they go through the same check.
  have hoctets : ∀ {origin : String} {octets : List UInt8},
      QueryInput.ofOctets origin octets = .ok text ↔
        some octets = some (Text.Utf8.encode text.toList) ∧
          (Text.Utf8.encode text.toList).length ≤ QueryInput.maxOctets := by
    intro origin octets
    rw [QueryInput.ofOctets_eq_ok_iff, Option.some.injEq]
    constructor
    · rintro ⟨hshort, rfl⟩
      exact ⟨rfl, hshort⟩
    · rintro ⟨rfl, hshort⟩
      exact ⟨hshort, rfl⟩
  cases file with
  | none => exact hoctets
  | some path =>
      rw [QueryInput.read, inputOctets]
      by_cases hdash : path.isDash = true
      · simp only [hdash, if_true]
        exact hoctets
      · simp only [if_neg hdash, QueryInput.ofFile, Tree.read]
        cases world.files.find path with
        | error fault => simp [Except.toOption]
        | ok entry =>
            cases entry with
            | directory => simp [Except.toOption]
            | file octets => exact hoctets

/-- A query is there exactly where its source can be read and has more than blanks. -/
theorem query_eq_ok_iff :
    query world file = .ok text ↔
      QueryInput.read world.files world.standardInput file = .ok text ∧
        Text.isBlank text.toList = false := by
  rw [query]
  cases QueryInput.read world.files world.standardInput file with
  | error report => simp
  | ok read =>
      by_cases hblank : Text.isBlank read.toList = true
      · simp only [hblank, if_true, reduceCtorEq, Except.ok.injEq, false_iff, not_and]
        rintro rfl
        simp [hblank]
      · simp only [if_neg hblank, Except.ok.injEq, iff_self_and]
        rintro rfl
        exact Bool.eq_false_iff.2 hblank

/-- A run is ready where the two stages in front of the call both go well. -/
theorem ready_iff :
    Ready world job connection text ↔
      world.connection job.settings = .ok connection ∧ query world job.file = .ok text := by
  constructor
  · rintro ⟨hsettings, hinput, hshort, hblank⟩
    exact ⟨connection_eq_ok_iff.2 hsettings,
      query_eq_ok_iff.2 ⟨read_eq_ok_iff.2 ⟨hinput, hshort⟩, hblank⟩⟩
  · rintro ⟨hconnection, hquery⟩
    obtain ⟨hread, hblank⟩ := query_eq_ok_iff.1 hquery
    obtain ⟨hinput, hshort⟩ := read_eq_ok_iff.1 hread
    exact ⟨connection_eq_ok_iff.1 hconnection, hinput, hshort, hblank⟩

/-- One exchange of a run with its service. -/
def exchangeOf (world : World) (connection : Connection) (request : Request) : Service.Attempt :=
  (Service.Client.ofConnection connection).exchange world.network request

/-- A run that is ready makes one call, and ends with its outcome. -/
theorem run_of_ready (h : Ready world job connection text) (quiet : Bool) :
    run world quiet job = finish quiet connection.endpoint
      (.ok (exchangeOf world connection ⟨job.direction, text⟩).outcome,
        [⟨job.direction, text⟩]) := by
  obtain ⟨hconnection, hquery⟩ := ready_iff.1 h
  rw [run, hconnection]
  dsimp only
  rw [hquery]
  dsimp only
  rw [convert_of_not_blank _ _ h.notBlank]
  rfl

/-- A run makes one call where it has a request to send, with that request, and none elsewhere. -/
theorem calls_run (world : World) (quiet : Bool) (job : Job) :
    (run world quiet job).calls = ((request? world job).map (·.2)).toList := by
  rw [run, request?]
  cases world.connection job.settings with
  | error report => rfl
  | ok connection =>
      dsimp only
      cases hquery : query world job.file with
      | error report => rfl
      | ok text =>
          dsimp only
          rw [convert_of_not_blank _ _ (query_eq_ok_iff.1 hquery).2]
          rfl

/-- A run that is not ready fails on the stage that is missing. -/
theorem run_of_not_ready (h : ¬ ∃ connection text, Ready world job connection text) (quiet : Bool) :
    ∃ report, run world quiet job = { outcome := .error report } := by
  rw [run]
  cases hconnection : world.connection job.settings with
  | error report => exact ⟨report, rfl⟩
  | ok connection =>
      dsimp only
      cases hquery : query world job.file with
      | error report => exact ⟨report, rfl⟩
      | ok text => exact absurd ⟨connection, text, ready_iff.2 ⟨hconnection, hquery⟩⟩ h

end Ready

/-! ## A service that reports an error -/

/-- The service answers a request in time and in full with an object that has an error message and
no conversion but an empty one. -/
structure Reports (world : World) (connection : Connection) (d : Direction) (message : String) :
    Prop where
  address : ∃ address, (Service.Client.ofConnection connection).destination d = .ok address
  reachable : world.network.reachable = true
  reply : ∃ response members, world.network.behaviour = .reply response ∧ response.missing = 0 ∧
    response.delayMillis < connection.timeoutSecs * 1000 ∧
    Json.parse (Service.Charset.decode response.mediaType response.body) = .ok (.object members) ∧
    Reply.stringField? members Reply.errorField = some message ∧
    (Reply.stringField? members d.responseField).getD "" = ""

/-- What a service reports is shown as the result of the query. -/
theorem outcome_of_reports {world : World} {connection : Connection} {request : Request}
    {message : String} (h : Reports world connection request.direction message) :
    (exchangeOf world connection request).outcome = .success message := by
  obtain ⟨⟨address, haddress⟩, hreachable, response, members, hreply, hmissing, hdelay, hparse,
    hmessage, hconversion⟩ := h
  have hread : Reply.read request.direction response.status
      (Service.Charset.decode response.mediaType response.body) = .ok message := by
    rw [Reply.read, hparse]
    dsimp only
    rw [Reply.ofMembers, hmessage]
    cases hfield : Reply.stringField? members request.direction.responseField with
    | none => rfl
    | some text =>
        -- An empty conversion gives way to the message.
        rw [hfield, Option.getD_some] at hconversion
        subst hconversion
        rfl
  have hawait : Service.awaitReply (Service.Client.ofConnection connection) world.network.behaviour
      request.direction (Endpoint.url connection.endpoint request.direction) address =
        .ok message := by
    rw [hreply, Service.awaitReply, Service.Client.ofConnection, if_neg (Nat.not_le_of_lt hdelay),
      if_neg (by rw [hmissing]; exact Nat.lt_irrefl 0), hread]
  have hheard : world.network.isRead = true := by
    rw [Service.Network.isRead, hreachable, hreply]
    rfl
  rw [exchangeOf, Service.Client.exchange, haddress]
  dsimp only
  rw [if_pos hheard]
  exact congrArg Outcome.ofReply hawait

end OneShot

/-! ## The whole run -/

namespace Program

open OneShot

section Whole

variable {world : World} {mode : OutputMode} {job : Job} {connection : Connection}

/-- A query that went out prints its outcome, and the exit status says whether that is a failure. -/
theorem convert_of_finish {endpoint : String} {outcome : Outcome} {calls : List Request}
    (h : OneShot.run world mode.quiet job = finish mode.quiet endpoint (.ok outcome, calls)) :
    (convert world mode job).out = outcome.text.toList ++ ['\n'] ∧
      (convert world mode job).code = if outcome.isFailure then unavailable else 0 := by
  constructor
  · rw [Program.convert, h]
    simp [finish, Line.renderAll, Line.render, Line.plain, Span.plain, Span.render]
  · rw [Program.convert, h]
    rfl

/-- The service receives what the one call of a run delivers. -/
theorem received_of_calls {request : Request}
    (hconnection : world.connection job.settings = .ok connection)
    (hcalls : (OneShot.run world mode.quiet job).calls = [request]) :
    (convert world mode job).received = (exchangeOf world connection request).delivery.toList := by
  have hreceived : (convert world mode job).received =
      deliveries world job (OneShot.run world mode.quiet job) := rfl
  rw [hreceived, deliveries, hconnection]
  dsimp only
  rw [hcalls, List.filterMap_cons, List.filterMap_nil, exchangeOf]
  cases ((Service.Client.ofConnection connection).exchange world.network request).delivery <;> rfl

/-- A run that is not ready fails with nothing on standard output. -/
theorem convert_of_not_ready (mode : OutputMode)
    (h : ¬ ∃ connection text, Ready world job connection text) :
    (convert world mode job).out = [] ∧ (convert world mode job).code = failed ∧
      (convert world mode job).received = [] := by
  obtain ⟨report, hrun⟩ := run_of_not_ready h mode.quiet
  rw [Program.convert, hrun]
  refine ⟨rfl, rfl, ?_⟩
  rw [OneShot.deliveries]
  cases world.connection job.settings <;> rfl

/-- The run of a command line without a subcommand is a conversion. -/
theorem run_of_parse {arguments : CommandLine.Arguments} {line : List String} {user : Option User}
    {now : Instant} (hparse : CommandLine.parse line = .ok arguments)
    (htask : arguments.task = none) :
    run world user now line = convert world (modeOf world arguments) (jobOf arguments) := by
  rw [run, hparse]
  dsimp only
  rw [perform, htask]

end Whole

/-- Converting a query complains of an empty input, and then calls nothing, exactly where the query
is blank. Otherwise it makes one call, with the query as it is, and its result is the outcome of the
call; it never ends without a result.

So the run of a command line without a subcommand calls the service exactly where it is ready: with
the direction and the query that it was given, and once. What it prints is the text of the outcome,
and its exit status is that of an unavailable service exactly for a failure, which an error that the
service itself reports is not. A run that is not ready fails without a call and prints nothing. -/
theorem sends_once_or_fails :
    (∀ (answer : Request → Outcome) (d : Direction) (text : String),
      ((OneShot.convert answer d text).1 = .error emptyInput ↔ Text.isBlank text.toList = true) ∧
      ((OneShot.convert answer d text).2 = [] ↔ Text.isBlank text.toList = true) ∧
      (Text.isBlank text.toList = false →
        OneShot.convert answer d text = (.ok (answer ⟨d, text⟩), [⟨d, text⟩])) ∧
      (OneShot.convert answer d text).1 ≠ .error noResult) ∧
    ∀ (world : World) (user : Option User) (now : Instant) (line : List String)
      (arguments : CommandLine.Arguments),
      CommandLine.parse line = .ok arguments → arguments.task = none →
      let job := jobOf arguments
      let ending := OneShot.run world (modeOf world arguments).quiet job
      let exit := run world user now line
      (ending.calls ≠ [] ↔ ∃ connection text, Ready world job connection text) ∧
      (∀ connection text, Ready world job connection text →
        let attempt := exchangeOf world connection ⟨job.direction, text⟩
        ending.calls = [⟨job.direction, text⟩] ∧ ending.outcome = .ok attempt.outcome ∧
        exit.out = attempt.outcome.text.toList ++ ['\n'] ∧
        exit.code = (if attempt.outcome.isFailure then unavailable else 0) ∧
        exit.received = attempt.delivery.toList ∧
        ∀ message, Reports world connection job.direction message →
          attempt.outcome = .success message) ∧
      ((¬ ∃ connection text, Ready world job connection text) →
        ending.calls = [] ∧ (∃ report, ending.outcome = .error report) ∧
        exit.out = [] ∧ exit.code = failed ∧ exit.received = []) := by
  constructor
  · intro answer d text
    refine ⟨convert_eq_emptyInput_iff answer d, ?_, convert_of_not_blank answer d,
      convert_ne_noResult answer d text⟩
    cases hblank : Text.isBlank text.toList with
    | true => simp [convert_of_blank answer d hblank]
    | false => simp [convert_of_not_blank answer d hblank]
  · intro world user now line arguments hparse htask job ending exit
    have hexit : exit = convert world (modeOf world arguments) job := run_of_parse hparse htask
    -- What a run that is ready, and one that is not, comes to is known; the rest is put together
    -- from the two.
    have hready : ∀ connection text, Ready world job connection text →
        ending.calls = [⟨job.direction, text⟩] ∧
          ending.outcome = .ok (exchangeOf world connection ⟨job.direction, text⟩).outcome := by
      intro connection text h
      have hending := run_of_ready h (modeOf world arguments).quiet
      exact ⟨congrArg Ending.calls hending, congrArg Ending.outcome hending⟩
    have hnot : (¬ ∃ connection text, Ready world job connection text) →
        ending.calls = [] ∧ ∃ report, ending.outcome = .error report := by
      intro h
      obtain ⟨report, hending⟩ := run_of_not_ready h (modeOf world arguments).quiet
      exact ⟨congrArg Ending.calls hending, report, congrArg Ending.outcome hending⟩
    refine ⟨⟨?_, ?_⟩, ?_, ?_⟩
    · intro hcalls
      apply Classical.byContradiction
      intro h
      exact hcalls (hnot h).1
    · rintro ⟨connection, text, h⟩
      rw [(hready connection text h).1]
      exact List.cons_ne_nil _ _
    · intro connection text h
      obtain ⟨hcalls, houtcome⟩ := hready connection text h
      obtain ⟨hout, hcode⟩ := convert_of_finish (run_of_ready h (modeOf world arguments).quiet)
      have hreceived := received_of_calls (ready_iff.1 h).1 hcalls
      rw [hexit]
      refine ⟨hcalls, houtcome, hout, hcode, hreceived, ?_⟩
      intro message hreports
      exact outcome_of_reports hreports
    · intro h
      obtain ⟨hcalls, report, houtcome⟩ := hnot h
      obtain ⟨hout, hcode, hreceived⟩ := convert_of_not_ready (modeOf world arguments) h
      rw [hexit]
      exact ⟨hcalls, ⟨report, houtcome⟩, hout, hcode, hreceived⟩

/-- A world whose service rejects the query on standard input. -/
def rejectingWorld : World :=
  { environment := { home := some "/h" }
    standardInput := Text.Utf8.encode " SELECT\n".toList
    network :=
      ⟨.reply
        { status := 400
          body := Text.Utf8.encode "\x7b\x22error\x22:\x22no\x22\x7d".toList }, true⟩ }

/-- A query with white space around it goes out as it is, and the message of the service is printed
as its result. The same query with an endpoint that is no address goes nowhere. -/
theorem rejectingWorld_prints_message :
    (run rejectingWorld none 0 ["-r"]).out = "no\n".toList ∧
      (run rejectingWorld none 0 ["-r"]).code = 0 ∧
      (OneShot.run rejectingWorld false ⟨.mongoToSql, none, {}⟩).calls =
        [⟨.mongoToSql, " SELECT\n"⟩] ∧
      (run rejectingWorld none 0 ["-e", "no address"]).out = [] ∧
      (run rejectingWorld none 0 ["-e", "no address"]).code = 1 := by
  have hready : Ready rejectingWorld (jobOf { reverse := true }) ⟨"http://localhost:5000", 30⟩
      " SELECT\n" := by
    refine ⟨⟨_, {}, rfl, rfl, rfl⟩, rfl, by decide, by decide⟩
  have hreports : Reports rejectingWorld ⟨"http://localhost:5000", 30⟩ .mongoToSql "no" := by
    refine ⟨⟨_, rfl⟩, rfl, _, _, rfl, rfl, by decide, rfl, rfl, rfl⟩
  have hnone : ¬ ∃ connection text,
      Ready rejectingWorld (jobOf { endpoint := some "no address" }) connection text := by
    rintro ⟨connection, text, h⟩
    have hconnection := (ready_iff.1 h).1
    cases hconnection
  obtain ⟨-, hsent, -⟩ := sends_once_or_fails.2 rejectingWorld none 0 ["-r"]
    { reverse := true } rfl rfl
  obtain ⟨-, -, hfailed⟩ := sends_once_or_fails.2 rejectingWorld none 0 ["-e", "no address"]
    { endpoint := some "no address" } rfl rfl
  obtain ⟨hcalls, -, hout, hcode, -, hmessage⟩ := hsent _ _ hready
  obtain ⟨-, -, hsilent, hfailure, -⟩ := hfailed hnone
  rw [hmessage _ hreports] at hout hcode
  exact ⟨hout, hcode, hcalls, hsilent, hfailure⟩

end Program

end QueryBridge
