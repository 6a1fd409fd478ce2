import QueryBridge.Program
import QueryBridge.Service.Socket
import QueryBridge.View.Device
import Std.Sync.Mutex
import Std.Time

/-!
# The command

The outer layer of the program. It reads the environment, the files that the command
line names and standard input, and sends the request of a one-shot run. All of that
goes to `Program.perform`, and what it gives is written out. At a terminal it reads
one line at a time instead, and leaves every decision to the loop of the session or
to the settings dialogue; each request has a task of its own.
-/

set_option autoImplicit false

namespace QueryBridge.Main

open QueryBridge.CommandLine QueryBridge.Terminal

/-- Writes characters to a stream. -/
def put (stream : IO.FS.Stream) (s : List Char) : IO Unit := do
  stream.putStr (String.ofList s)
  stream.flush

/-- What stands at a path on disk. -/
def lookAt (path : Files.Path) : IO (Option Files.Entry) := do
  try
    let octets ← IO.FS.readBinFile path.toString
    return some (.file octets.toList)
  catch
    | .inappropriateType .. => return some .directory
    | _ => return none

/-- The tree with what stands at a path on disk. -/
def bring (tree : Files.Tree) (path : Files.Path) : IO Files.Tree := do
  match ← lookAt path with
  | some entry => return tree.plant (Files.Tree.plainLocation path) entry
  | none => return tree

/-- The environment of this run. -/
def surroundings : IO Environment := do
  return { configHome := ← IO.getEnv "XDG_CONFIG_HOME"
           home := ← IO.getEnv "HOME"
           noColor := ← IO.getEnv "NO_COLOR" }

/-- The path that a query is read from. -/
def queryPath? (arguments : Arguments) : Option Files.Path :=
  (arguments.file.map Files.Path.ofString).filter (!·.isDash)

/-- What a run with these arguments finds outside itself. -/
def survey (arguments : Arguments) : IO World := do
  let environment ← surroundings
  let mut tree : Files.Tree := {}
  if let .ok path := environment.settingsPath then
    tree ← bring tree path
  if let some path := queryPath? arguments then
    tree ← bring tree path
  let mut octets := ByteArray.empty
  if arguments.task.isNone && (queryPath? arguments).isNone then
    octets ← (← IO.getStdin).readBinToEnd
  return { environment := environment, files := tree, standardInput := octets.toList }

/-- How many seconds the local clock is ahead of universal time, which stands in for the local time
where that is not known. -/
def clockAhead : IO Int := do
  try
    return (← Std.Time.DateTime.now).timezone.offset.second.val
  catch _ => return 0

/-- The time now. -/
def clock : IO Instant := do
  let now ← Std.Time.Timestamp.now
  return ⟨now.toSecondsSinceUnixEpoch.val, ← clockAhead⟩

/-- Writes out what is left of a run. -/
def conclude (exit : Program.Exit) : IO UInt32 := do
  put (← IO.getStdout) exit.out
  put (← IO.getStderr) exit.err
  return exit.code.toUInt32

/-- Writes out how a command went, and gives the exit status. -/
def leaveWith (result : Fallible Unit) : IO UInt32 := do
  let (code, complaint) := Program.ofResult result
  put (← IO.getStderr) complaint
  return code.toUInt32

/-- A stream as a device. It does not tell how much it took of what it failed to write. -/
def deviceOf (stream : IO.FS.Stream) : Device IO where
  put piece := do
    try
      stream.putStr (String.ofList piece)
      return piece.length
    catch _ => return 0
  flush := do
    try
      stream.flush
      return true
    catch _ => return false

/-- Writes outputs of a session to the streams that they belong to. An emission of the view that
cannot be written is given up. -/
def emit (mode : OutputMode) (output : List Output) : IO Unit := do
  for piece in output do
    match piece with
    | .screen emission =>
      discard <| emission.writeTo (deviceOf (← IO.getStdout)) mode.color
    | .out _ | .err _ =>
      put (← IO.getStdout) (Program.outText mode.color piece)
      put (← IO.getStderr) (Program.errText mode.color piece)

/-- Reads one line at a prompt. The end of the input interrupts the program. -/
def ask (message : String) : IO Answer := do
  put (← IO.getStderr) (Line.render false (Emission.promptLine message))
  let line ← (← IO.getStdin).getLine
  if line.isEmpty then return .error .interrupted
  return .ok (String.ofList ((Text.lines line.toList).headD []))

/-- All calls of a session. -/
def callsOf (loop : Repl.Loop) : List Request :=
  loop.repl.console.session.calls

/-- An interactive session that several tasks work on. -/
structure Shared where
  loop : Std.Mutex Repl.Loop
  client : Service.Client
  mode : OutputMode

namespace Shared

/-- Changes the loop, shows what that puts out, and gives the calls that it added. -/
def change (shared : Shared) (f : Repl.Loop → Repl.Loop × List Output) : IO (List Request) :=
  shared.loop.atomically do
    let before ← get
    let (after, output) := f before
    set after
    emit shared.mode output
    return (callsOf after).drop (callsOf before).length

/-- Sends a request and hands the reply to the loop. -/
def attend (shared : Shared) (request : Request) : IO Unit := do
  let network ← Service.Socket.encounter shared.client request
  let outcome := (shared.client.exchange network request).outcome
  let arrival : Repl.Arrival := ⟨request.direction, outcome, ← clock⟩
  discard <| shared.change (·.deliver arrival)

/-- Holds the session until its loop has ended, and gives the tasks of all requests. -/
partial def hold (shared : Shared) (tasks : List (Task (Except IO.Error Unit))) :
    IO (List (Task (Except IO.Error Unit))) := do
  let loop ← shared.loop.atomically get
  match loop.phase with
  | .waiting =>
    let given ← ask (loop.sent.getLastD "")
    let requests ← shared.change (·.run [eventOf given, .polled])
    hold shared (tasks ++ (← requests.mapM fun request => IO.asTask (shared.attend request)))
  | .left | .broken _ => return tasks

end Shared

/-- An interactive session at a terminal. -/
def interact (world : World) (mode : OutputMode) (d : Direction) (settings : Settings) :
    IO UInt32 := do
  match world.connection settings with
  | .error report => leaveWith (.error report)
  | .ok connection =>
    let client := Service.Client.ofConnection connection
    let (start, shown) := Repl.Loop.start ⟨connection.endpoint, client.timeoutMillis, d⟩
    emit mode shown
    let shared : Shared := ⟨← Std.Mutex.new start, client, mode⟩
    let tasks ← shared.hold []
    match (← shared.loop.atomically get).phase with
    | .broken failure => leaveWith (.error failure.report)
    | .waiting | .left =>
      discard <| shared.change fun loop => (loop, loop.repl.waitingNotice)
      for task in tasks do
        discard <| IO.wait task
      discard <| shared.change fun loop => (loop, loop.repl.goodbye)
      return 0

/-- Asks until both questions are answered or a prompt fails. -/
partial def interview (stored : Settings) (dialogue : Dialogue) :
    IO (Except PromptFailure Settings) := do
  match dialogue.settings?, dialogue.stage.question? stored with
  | some settings, _ => return .ok settings
  | none, none => return .error .notTerminal
  | none, some question =>
    match ← ask question.message with
    | .error failure => return .error failure
    | .ok line => interview stored (dialogue.submit stored line)

/-- Carries out an action on disk, and says why where it fails. -/
def attempt (complaint : String → Report) (act : IO Unit) : ExceptT Report IO Unit := do
  match ← act.toBaseIO with
  | .ok () => return ()
  | .error fault => throwThe Report (complaint (toString fault))

/-- Saves settings on disk, in one step. -/
def keep (path : Files.Path) (settings : Settings) : ExceptT Report IO Unit := do
  if let some above := path.parent? then
    attempt (Settings.notPrepared above) (IO.FS.createDirAll above.toString)
  let temporary := (Files.temporary path).toString
  attempt (Files.notStaged path) (IO.FS.writeFile temporary (String.ofList settings.write))
  attempt (Files.notCommitted path) (IO.FS.rename temporary path.toString)

/-- The command about settings at a terminal. -/
def configure (world : World) (mode : OutputMode) : IO UInt32 := do
  match world.storedSettings with
  | .error report => leaveWith (.error report)
  | .ok (path, stored) =>
    put (← IO.getStdout) (Line.renderAll mode.color (Configure.currentValues stored))
    match ← interview stored {} with
    | .ok settings =>
      let result ← (keep path settings).run
      if result matches .ok () then
        unless mode.quiet do
          put (← IO.getStderr) (Line.renderAll mode.color (Configure.saved path))
      leaveWith result
    | .error failure =>
      let (rows, result) := settleAsking (.error (.prompt failure none))
      put (← IO.getStdout) (Line.renderAll mode.color rows)
      leaveWith result

/-- The world of a one-shot run, with what its request meets. -/
def reach (world : World) (arguments : Arguments) : IO World := do
  match OneShot.request? world (Program.jobOf arguments) with
  | some (client, request) =>
    return { world with network := ← Service.Socket.encounter client request }
  | none => return world

/-- A run with arguments. -/
def perform (arguments : Arguments) : IO UInt32 := do
  let world ← survey arguments
  let mode := Program.modeOf world arguments
  if ← (← IO.getStdin).isTty then
    match arguments.task with
    | some (.interactive reverse) =>
      return ← interact world mode (.ofReverse (reverse || arguments.reverse))
        (Program.settingsOf arguments)
    | some (.configure false) => return ← configure world mode
    | _ => pure ()
  let met ← if arguments.task.isNone then reach world arguments else pure world
  conclude (Program.perform met none (← clock) arguments)

end QueryBridge.Main

/-- The command. -/
def main (line : List String) : IO UInt32 := do
  match QueryBridge.CommandLine.parse line with
  | .ok arguments => QueryBridge.Main.perform arguments
  | .error stop => QueryBridge.Main.conclude (QueryBridge.Program.stopped {} stop)
