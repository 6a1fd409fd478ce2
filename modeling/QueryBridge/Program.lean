import QueryBridge.CommandLine.Parse
import QueryBridge.Terminal.Interactive
import QueryBridge.Terminal.Dialogue

/-!
# The program

A run reads its command line and does one of four things: it explains itself,
converts one query, holds an interactive session, or shows or asks for settings. It
ends with an exit status, the text on both output streams, what the service received
and the files it leaves.
-/

set_option autoImplicit false

namespace QueryBridge.Program

open QueryBridge.CommandLine

/-- The exit status of a run that failed. -/
def failed : Nat := 1

/-- The exit status of a run whose command line is wrong. -/
def misused : Nat := 2

/-- The exit status of a run whose query got no usable reply. -/
def unavailable : Nat := 69

/-- What is left of a run. -/
structure Exit where
  code : Nat
  out : List Char := []
  err : List Char := []
  /-- What the service received. -/
  received : List Service.Delivery := []
  files : Files.Tree
  deriving Repr

/-- What an output puts on standard output. -/
def outText (color : Bool) : Output → List Char
  | .screen emission => emission.render color
  | .out lines => Line.renderAll color lines
  | .err _ => []

/-- What an output puts on standard error. -/
def errText (color : Bool) : Output → List Char
  | .err lines => Line.renderAll color lines
  | _ => []

/-- The exit status and the text on standard error of a result. -/
def ofResult : Fallible Unit → Nat × List Char
  | .ok () => (0, [])
  | .error report => (failed, report.render.toList)

/-- The settings on a command line. -/
def settingsOf (arguments : Arguments) : Settings :=
  ⟨arguments.endpoint, arguments.timeoutSecs⟩

/-- What the arguments of a one-shot run ask for. -/
def jobOf (arguments : Arguments) : OneShot.Job :=
  ⟨.ofReverse arguments.reverse, arguments.file.map .ofString, settingsOf arguments⟩

/-- The version text. -/
def versionText : String :=
  "qtr " ++ programVersion ++ "\n"

/-- The exit of a run whose command line was not read to its end. -/
def stopped (files : Files.Tree) : Stop → Exit
  | .help topic => { code := 0, out := (helpText topic).toList, files := files }
  | .version => { code := 0, out := versionText.toList, files := files }
  | .fault _ => { code := misused, files := files }

/-- The exit of a one-shot run. -/
def convert (world : World) (mode : OutputMode) (job : OneShot.Job) : Exit :=
  let ending := OneShot.run world mode.quiet job
  let (code, complaint) : Nat × List Char :=
    match ending.outcome with
    | .ok outcome => (if outcome.isFailure then unavailable else 0, [])
    | .error report => (failed, report.render.toList)
  { code := code
    out := Line.renderAll mode.color ending.out
    err := Line.renderAll mode.color ending.err ++ complaint
    received := OneShot.deliveries world job ending
    files := world.files }

/-- The network that the call with a number meets. -/
def networkFor (world : World) (behaviours : List Service.Behaviour) (number : Nat) :
    Service.Network :=
  ⟨behaviours.getD number world.network.behaviour, world.network.reachable⟩

/-- What the service received of calls, the first of which has a number. -/
def receivedFrom (client : Service.Client) (network : Nat → Service.Network) (number : Nat) :
    List Request → List Service.Delivery
  | [] => []
  | request :: rest =>
    (client.exchange (network number) request).delivery.toList ++
      receivedFrom client network (number + 1) rest

/-- A user at the terminal: the gestures, and what the service does with each call. -/
structure User where
  gestures : List Terminal.Gesture
  behaviours : List Service.Behaviour := []
  deriving DecidableEq, Repr

/-- The exit of an interactive session. -/
def interact (world : World) (mode : OutputMode) (user : Option User) (now : Instant)
    (d : Direction) (settings : Settings) : Exit :=
  match world.connection settings with
  | .error report => { code := failed, err := report.render.toList, files := world.files }
  | .ok connection =>
    let client := Service.Client.ofConnection connection
    let network := networkFor world (user.elim [] User.behaviours)
    let answer := fun number request => Terminal.answeringOf client (network number) request
    let departure := Terminal.interact answer now
      ⟨connection.endpoint, client.timeoutMillis, d⟩ (user.map User.gestures)
    let (code, complaint) := ofResult departure.result
    { code := code
      out := departure.output.flatMap (outText mode.color)
      err := departure.output.flatMap (errText mode.color) ++ complaint
      received := receivedFrom client network 0 departure.calls
      files := world.files }

/-- The exit of a command that shows the settings. -/
def showSettings (world : World) (mode : OutputMode) : Exit :=
  let (rows, result) := Configure.display world
  let (code, complaint) := ofResult result
  { code := code, out := Line.renderAll mode.color rows, err := complaint, files := world.files }

/-- The exit of a command that asks for settings. -/
def askSettings (world : World) (mode : OutputMode) (user : Option User) : Exit :=
  let conclusion := Terminal.configure world mode.quiet (user.map User.gestures)
  let (rows, result) := settleAsking conclusion.result
  let (code, complaint) := ofResult result
  { code := code
    out := Line.renderAll mode.color (conclusion.out ++ rows)
    err := Line.renderAll mode.color conclusion.err ++ complaint
    files := conclusion.files }

/-- The output mode of a command line. -/
def modeOf (world : World) (arguments : Arguments) : OutputMode :=
  .ofFlags world.environment arguments.quiet arguments.noColor

/-- The exit of a run whose command line is read. -/
def perform (world : World) (user : Option User) (now : Instant) (arguments : Arguments) : Exit :=
  let mode := modeOf world arguments
  match arguments.task with
  | some (.interactive reverse) =>
    interact world mode user now (.ofReverse (reverse || arguments.reverse)) (settingsOf arguments)
  | some (.configure true) => showSettings world mode
  | some (.configure false) => askSettings world mode user
  | none =>
    convert world mode (jobOf arguments)

/-- A run. -/
def run (world : World) (user : Option User) (now : Instant) (line : List String) : Exit :=
  match parse line with
  | .error stop => stopped world.files stop
  | .ok arguments => perform world user now arguments

end QueryBridge.Program
