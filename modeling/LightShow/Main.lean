import LightShow.Bridge.Clockwork
import LightShow.Bridge.Exchange
import LightShow.Log.Clock
import LightShow.Show.Program
import Std.Async.DNS
import Std.Async.TCP
import Std.Async.UDP
import Std.Time

/-!
The command line program: shows on real files, the real clock and real networks. The rules of a show
are elsewhere; here is only what reaches out of the program.
-/

set_option autoImplicit false

namespace LightShow.Live

open Std.Async Std.Net

/-- Nanoseconds from the beginning of 1970. -/
def wallClock : IO Nat := do
  return (← Std.Time.Timestamp.now).toNanosecondsSinceUnixEpoch.val.toNat

/-! ### Files -/

def look (path : String) : IO FileContent := do
  try
    return .bytes (← IO.FS.readBinFile path).toList
  catch
    | .noFileOrDirectory .. => return .missing
    | _ => return .directory

/-- Whether an action goes through. -/
def succeeds (action : IO Unit) : IO Bool := do
  try
    action
    return true
  catch _ => return false

def rotateLogs (directory : String) (maxFiles : Nat) : IO Unit := do
  try
    let path := (← IO.currentDir) / directory
    if ← path.pathExists then
      let entries ← (← path.readDir).toList.mapM fun entry => do
        return (⟨.ofText entry.fileName, ← entry.path.isDir⟩ : DirectoryEntry)
      let outcome := LogRotation.rotate maxFiles entries
      for entry in outcome.removed do
        IO.FS.removeFile (path / entry.name.shown)
      if outcome.blocked then throw (IO.userError "a directory is among the log files")
  catch error => IO.eprintln s!"Warning: Failed to cleanup old log files: {error}"

/-! ### Networks -/

/-- The first address of a host. -/
def address? (host : String) (port : UInt16) : IO (Option SocketAddress) := do
  try
    let found ← (DNS.getAddrInfo host (toString port)).block
    return found[0]?.map fun
      | .v4 addr => .v4 ⟨addr, port⟩
      | .v6 addr => .v6 ⟨addr, port⟩
  catch _ => return none

/-- An address of this machine that a socket for a target is bound to. -/
def anyAddress : SocketAddress → SocketAddress
  | .v4 _ => .v4 ⟨IPv4Addr.ofParts 0 0 0 0, 0⟩
  | .v6 _ => .v6 ⟨IPv6Addr.ofParts 0 0 0 0 0 0 0 0, 0⟩

/-- Receives until the other side is done. -/
partial def receiveAll (socket : TCP.Socket.Client) (received : ByteArray) : IO ByteArray := do
  match ← (socket.recv? 4096).block with
  | some bytes => receiveAll socket (received ++ bytes)
  | none => return received

/-- Sends a request and waits for its response. -/
def exchange (request : StateRequest) : IO Answer := do
  try
    match ← address? request.address.host request.address.port with
    | none => return .failed
    | some address =>
      let socket ← TCP.Socket.Client.mk
      (socket.connect address).block
      (socket.send request.text.toUTF8).block
      match Response.ofBytes? (← receiveAll socket ByteArray.empty).toList with
      | some response => return .response response
      | none => return .failed
  catch _ => return .failed

/-- Sleeps until an instant, to the next whole millisecond. -/
def sleepUntil (instant : Nat) : IO Unit := do
  let now ← IO.monoNanosNow
  if now < instant then IO.sleep (UInt32.ofNat ((instant - now + millis 1 - 1) / millis 1))

/-- Waits for a task up to an instant, and says whether it is done. -/
partial def awaitUntil {α : Type} (task : Task α) (deadline : Nat) : IO Bool := do
  if ← IO.hasFinished task then return true
  else if deadline ≤ (← IO.monoNanosNow) then return false
  else
    IO.sleep 1
    awaitUntil task deadline

/-- How long an answer is waited for. -/
def requestTimeout : Nat := millis 5000

/-- Sends a request of a controller and waits for its answer. -/
def answerTo (client : BridgeClient) (request : Request) : IO Answer := do
  match StateRequest.ofBody? client request.light request.body with
  | none => return .failed
  | some request =>
    let task ← (exchange request).asTask
    if ← awaitUntil task ((← IO.monoNanosNow) + requestTimeout) then
      match task.get with
      | .ok answer => return answer
      | .error _ => return .failed
    else return .failed

/-! ### The flush task of a bridge -/

structure BridgeTask where
  controller : IO.Ref (Controller Float)
  stopping : IO.Ref Bool
  task : Task (Except IO.Error Unit)

/-- One event of a controller, now. -/
def advance (controller : IO.Ref (Controller Float)) (event : ControllerEvent Float) :
    IO (Option Request) := do
  let now ← IO.monoNanosNow
  controller.modifyGet fun state =>
    let (next, request) := state.step now event
    (request, next)

/-- Goes on with a flush to its end. -/
partial def finishFlush (write : LogLine → IO Unit) (client : BridgeClient)
    (controller : IO.Ref (Controller Float)) : IO Unit := do
  let state ← controller.get
  if state.isBusy .task then
    sleepUntil state.nextSlot
    match ← advance controller .slot with
    | none => pure ()
    | some request =>
      let answer ← answerTo client request
      (answer.note? request.light (← controller.get).backoff).forM write
      discard <| advance controller (.answer answer)
    finishFlush write client controller

/-- Flushes at every tick until it is told to stop. -/
partial def tickLoop (write : LogLine → IO Unit) (client : BridgeClient) (window : Nat)
    (controller : IO.Ref (Controller Float)) (stopping : IO.Ref Bool) (due : Nat) : IO Unit := do
  let now ← IO.monoNanosNow
  if ← stopping.get then return ()
  else if now < due then
    sleepUntil (min due (now + millis 5))
    tickLoop write client window controller stopping due
  else
    discard <| advance controller (.ask .task)
    discard <| advance controller .drain
    finishFlush write client controller
    let base := if now ≤ due + Clockwork.tickTolerance then due else now
    tickLoop write client window controller stopping (base + millis window)

def startBridge (bridge : IO.Ref (Option BridgeTask)) (write : LogLine → IO Unit)
    (settings : BridgeSettings) : IO Bool := do
  match BridgeClient.create settings with
  | .error _ => return false
  | .ok client =>
    let controller ← IO.mkRef ({ interval := settings.interval.toNat } : Controller Float)
    let stopping ← IO.mkRef false
    let window := settings.batchWindow.toNat
    let due := (← IO.monoNanosNow) + millis window
    let task ← (tickLoop write client window controller stopping due).asTask
    bridge.set (some ⟨controller, stopping, task⟩)
    return true

def stopBridge (bridge : IO.Ref (Option BridgeTask)) : IO Unit := do
  match ← bridge.get with
  | none => return ()
  | some work =>
    bridge.set none
    work.stopping.set true
    if !(← awaitUntil work.task ((← IO.monoNanosNow) + Clockwork.stopTimeout)) then
      discard <| advance work.controller (.cutOff .task)
    discard <| advance work.controller .discard

/-! ### The host -/

/-- The target of a stream and the socket it is reached through. -/
structure Line where
  socket : UDP.Socket
  target : SocketAddress

def resolve (line : IO.Ref (Option Line)) (settings : StreamSettings) : IO (Option String) := do
  match ← address? settings.targetHost settings.targetPort with
  | none => return none
  | some target =>
    let socket ← UDP.Socket.mk
    if ← succeeds (socket.bind (anyAddress target)) then
      line.set (some ⟨socket, target⟩)
      return some (toString target)
    else return none

def deliver (line : IO.Ref (Option Line)) (packet : List UInt8) : IO Bool := do
  match ← line.get with
  | none => return false
  | some line => succeeds (line.socket.send ⟨packet.toArray⟩ (some line.target)).block

/-- Waits until a block is due, counted from the first one. -/
def await (beginning : IO.Ref (Option Nat)) (block : AudioFrame) : IO Int := do
  let now ← IO.monoNanosNow
  let start := (← beginning.get).getD now
  beginning.set (some start)
  sleepUntil (start + millis block.timestamp.toNat)
  return ((← IO.monoNanosNow) : Nat)

def host : IO (Host IO) := do
  let logFile ← IO.mkRef (none : Option IO.FS.Handle)
  let line ← IO.mkRef (none : Option Line)
  let bridge ← IO.mkRef (none : Option BridgeTask)
  let beginning ← IO.mkRef (none : Option Nat)
  return {
    look
    makeDirectory := fun path =>
      if path.isEmpty then pure true else succeeds (IO.FS.createDirAll path)
    rotateLogs
    stamp := do return (← wallClock) / 1000000000
    createLog := fun path => succeeds do
      logFile.set (some (← IO.FS.Handle.mk path .write))
      IO.eprintln ("Logging to file: " ++ quoted path)
    write := fun log entry => do
      let now ← wallClock
      if log.console then IO.eprintln (entry.consoleText now)
      if log.file then
        (← logFile.get).forM fun handle => do
          handle.putStrLn (entry.fileText now)
          handle.flush
    resolve := resolve line
    deliver := deliver line
    startBridge := startBridge bridge
    request := fun updates => do
      (← bridge.get).forM fun work => discard <| advance work.controller (.queue updates)
    stopBridge := stopBridge bridge
    await := await beginning }

end LightShow.Live

open LightShow in
def main (arguments : List String) : IO UInt32 := do
  let outcome ← (← Live.host).run arguments ((← IO.getEnv "RUST_LOG").getD "")
  match outcome with
  | .printed text => IO.print text
  | .usage error => IO.eprintln error.message
  | .failed failure =>
    IO.eprintln failure.report
    failure.cause?.forM fun cause => IO.eprintln ("\nCaused by:\n    " ++ cause)
  | .finished => pure ()
  return outcome.code.toUInt32
