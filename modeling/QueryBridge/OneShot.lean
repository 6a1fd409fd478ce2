import QueryBridge.Service.Exchange
import QueryBridge.QueryInput
import QueryBridge.Settings.Store
import QueryBridge.Environment
import QueryBridge.Style

/-!
# One-shot runs

A one-shot run converts one query and prints the text of the outcome. It sends one
request, or none if anything in front of it fails: the settings, the input, or a
query of white space only.
-/

set_option autoImplicit false

namespace QueryBridge

/-- All that a run finds outside itself. -/
structure World where
  environment : Environment := {}
  files : Files.Tree := {}
  standardInput : List UInt8 := []
  network : Service.Network := ⟨.refuse, false⟩
  deriving DecidableEq, Repr

namespace World

/-- The settings file of a run, and what is set in it. -/
def storedSettings (world : World) : Fallible (Files.Path × Settings) :=
  match world.environment.settingsPath with
  | .error report => .error report
  | .ok path =>
    match Settings.loadOrDefault world.files path with
    | .error report => .error report
    | .ok settings => .ok (path, settings)

/-- The settings of a run. -/
def connection (world : World) (commandLine : Settings) : Fallible Connection :=
  match world.storedSettings with
  | .error report => .error report
  | .ok (_, file) => Settings.resolve commandLine file

end World

namespace OneShot

/-- The complaint about a query of white space only. -/
def emptyInput : Report := ⟨"Input is empty", []⟩

/-- The complaint about a request that ended without an outcome. -/
def noResult : Report := ⟨"Translation finished without a result", []⟩

/-- A fresh session with a query in the buffer of the selected direction. -/
def prepared (d : Direction) (query : String) : Session :=
  (Session.new.setDirection d).edit d query

/-- Converts one query in a fresh session. Gives the outcome and the calls of the service. -/
def convert (answer : Request → Outcome) (d : Direction) (query : String) :
    Fallible Outcome × List Request :=
  let (sent, session) := (prepared d query).submit
  if sent then
    match session.pending? d with
    | none => (.error noResult, session.calls)
    | some request =>
      match session.complete? d (answer request) 0 with
      | none => (.error noResult, session.calls)
      | some (_, after) =>
        match after.state.outcome with
        | some outcome => (.ok outcome, after.calls)
        | none => (.error noResult, after.calls)
  else (.error emptyInput, session.calls)

/-- What a one-shot run is asked for. -/
structure Job where
  direction : Direction
  file : Option Files.Path := none
  settings : Settings := {}
  deriving DecidableEq, Repr

/-- How a one-shot run ends, and what it prints. -/
structure Ending where
  outcome : Fallible Outcome
  calls : List Request := []
  out : List Line := []
  err : List Line := []
  deriving Repr

/-- The hint behind a failure. -/
def failureHint (endpoint : String) : Line :=
  [Style.hint.paint ("Is the translation service running at " ++ endpoint ++
    "? Set another with --endpoint or \x60qtr configure\x60.")]

/-- The end of a run whose query went out. -/
def finish (quiet : Bool) (endpoint : String) : Fallible Outcome × List Request → Ending
  | (.error report, calls) => { outcome := .error report, calls := calls }
  | (.ok outcome, calls) =>
    { outcome := .ok outcome
      calls := calls
      out := [Line.plain outcome.text]
      err := if outcome.isFailure && !quiet then [failureHint endpoint] else [] }

/-- The query of a run, which is not blank. -/
def query (world : World) (file : Option Files.Path) : Fallible String :=
  match QueryInput.read world.files world.standardInput file with
  | .error report => .error report
  | .ok query => if Text.isBlank query.toList then .error emptyInput else .ok query

/-- The request that a run sends, and who sends it. -/
def request? (world : World) (job : Job) : Option (Service.Client × Request) :=
  match world.connection job.settings with
  | .error _ => none
  | .ok connection =>
    match query world job.file with
    | .error _ => none
    | .ok query => some (.ofConnection connection, ⟨job.direction, query⟩)

/-- A one-shot run. -/
def run (world : World) (quiet : Bool) (job : Job) : Ending :=
  match world.connection job.settings with
  | .error report => { outcome := .error report }
  | .ok connection =>
    match query world job.file with
    | .error report => { outcome := .error report }
    | .ok query =>
      let client := Service.Client.ofConnection connection
      finish quiet connection.endpoint
        (convert (fun request => (client.exchange world.network request).outcome)
          job.direction query)

/-- What the service received in a run. -/
def deliveries (world : World) (job : Job) (ending : Ending) : List Service.Delivery :=
  match world.connection job.settings with
  | .error _ => []
  | .ok connection =>
    ending.calls.filterMap fun request =>
      ((Service.Client.ofConnection connection).exchange world.network request).delivery

end OneShot

end QueryBridge
