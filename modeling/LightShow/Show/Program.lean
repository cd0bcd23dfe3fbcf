import LightShow.Bridge.Controller
import LightShow.Log.Filter
import LightShow.Log.Rotation
import LightShow.Files.Tree
import LightShow.Show.CommandLine
import LightShow.Show.Playback
import LightShow.Stream.Session

/-!
A whole show, from the command line to the last log line. What the program does to the world around
it goes through a `Host`, so that the same program plays on real files and networks and on ones in
memory.
-/

set_option autoImplicit false

namespace LightShow

/-- What a show needs from the world. -/
structure Host (m : Type → Type) where
  /-- What a path leads to. -/
  look : String → m FileContent
  /-- Makes a directory with those above it, and says whether it is there. -/
  makeDirectory : String → m Bool
  /-- Makes room in a directory of logs. -/
  rotateLogs : String → Nat → m Unit
  /-- The number of the session, by which its log file is named. -/
  stamp : m Nat
  /-- Makes a log file, and says whether it is there. -/
  createLog : String → m Bool
  /-- Writes a log line to the console, the log file or both. -/
  write : LogSettings → LogLine → m Unit
  /-- The address of a stream target, if there is one and a socket can be bound for it. -/
  resolve : StreamSettings → m (Option String)
  /-- Sends a packet to the stream target, and says whether it got out. -/
  deliver : List UInt8 → m Bool
  /-- Starts the flush task for a bridge, which writes log lines, and says whether it runs. -/
  startBridge : (LogLine → m Unit) → BridgeSettings → m Bool
  /-- Queues updates for the bridge. -/
  request : List (Update Float) → m Unit
  /-- Stops the flush task. -/
  stopBridge : m Unit
  /-- Waits until a block is due, and gives the instant in nanoseconds. -/
  await : AudioFrame → m Int

/-- How a show ended. -/
inductive Outcome where
  | usage (error : UsageError)
  | printed (text : String)
  | failed (failure : ShowFailure)
  | finished
  deriving Repr

def Outcome.code : Outcome → UInt8
  | .usage _ => 2
  | .failed _ => 1
  | .printed _ | .finished => 0

/-- The line that reports a failure. -/
def ShowFailure.report (failure : ShowFailure) : String :=
  "Error: " ++ failure.context

/-- What is told about an answer of a bridge, given the backoff before it. -/
def Answer.note? (light : String) (backoff : BackoffTable) : Answer → Option LogLine
  | .failed => some ⟨.error, .bridge, s!"Failed to send update for light {light}: HTTP error"⟩
  | .response given =>
    if given.isSuccess then none
    else if given.isRateLimited then
      let duration := backoff.duration light given.retryAfter
      some ⟨.warn, .bridge, s!"HTTP 429 for light {light}, backing off for {duration}ms"⟩
    else
      some ⟨.warn, .bridge,
        s!"HTTP request failed with status {given.status} for light {light}"⟩

/-- A host with the log settings of a show. -/
structure Stage (m : Type → Type) where
  host : Host m
  log : LogSettings
  filter : LogFilter

/-- The transports of a show. -/
structure Transports where
  /-- The stream session, if some light is streamed to. -/
  session : Option Session := none
  /-- Whether the flush task of a bridge runs. -/
  bridge : Bool := false
  /-- What was counted instead of sent, in a dry run. -/
  dry : Option SinkCounts := none
  deriving Repr

namespace Stage

variable {m : Type → Type} [Monad m]

/-- Writes a log line, if it passes. -/
def write (stage : Stage m) (line : LogLine) : m Unit :=
  if stage.filter.passes line then stage.host.write stage.log line else pure ()

def say (stage : Stage m) (level : LogLevel) (part : LogPart) (text : String) : m Unit :=
  stage.write ⟨level, part, text⟩

/-- The router of the light map in the settings. Without a light map no light is driven. -/
def buildRouter (stage : Stage m) (path : String) : m Router := do
  if path.isEmpty then
    stage.say .warn .program "No light map configured, no light will be driven"
    return {}
  match LightMap.ofFile path (← stage.host.look path) with
  | .error error =>
    stage.say .warn .program
      s!"Failed to load light map: {error.message}. Continuing with an empty map"
    return {}
  | .ok map =>
    for entry in map.unrecognised do
      stage.say .warn .lightMap
        s!"Invalid control type '{entry.controlType}' for light '{entry.id}', skipping"
    let (router, _) := Router.adopt {} (.ok map)
    stage.say .info .router s!"Loaded {router.routes.size} lights from light map"
    return router

/-- Ends a stream session. -/
def stopStream (stage : Stage m) (session : Session) : m Unit := do
  if session.active then
    let stats := session.stats
    stage.say .info .stream
      (s!"Stopped UDP session. Frames sent: {stats.framesSent}, "
        ++ s!"packets sent: {stats.packetsSent}, packets failed: {stats.packetsFailed}")

/-- Opens a stream session. -/
def startStream (stage : Stage m) (settings : StreamSettings) :
    m (Except ShowFailure Session) := do
  match settings.check with
  | .error cause => return .error (.streamSettings cause)
  | .ok () =>
    match ← stage.host.resolve settings with
    | none => return .error .streamStart
    | some address =>
      stage.say .info .stream s!"Started UDP session to {settings.target} ({address})"
      return .ok (Session.start {} .opened).1

/-- Starts the flush task of a bridge. -/
def startBridge (stage : Stage m) (settings : BridgeSettings) : m (Except ShowFailure Unit) := do
  match settings.check with
  | .error cause => return .error (.bridgeSettings cause)
  | .ok () =>
    if ← stage.host.startBridge stage.write settings then
      stage.say .info .bridge
        (s!"LowEffectController started with batch window {settings.batchWindow}ms and rate limit "
          ++ formatNumber .message settings.requestsPerSecond ++ " req/s")
      return .ok ()
    else return .error .bridgeStart

/-- Starts the transports that the lights of a router need. -/
def attach (stage : Stage m) (settings : AppSettings) (dryRun : Bool) (router : Router) :
    m (Except ShowFailure (Transports × Router)) := do
  if dryRun then
    stage.say .info .program "Dry run: light updates are logged, not sent"
    return .ok ({ dry := some {} }, { router with streams := true, bridges := true })
  let session ←
    if router.uses .stream then
      match ← stage.startStream settings.stream with
      | .error failure => return .error failure
      | .ok session => pure (some session)
    else pure none
  if router.uses .bridge then
    match ← stage.startBridge settings.bridge with
    | .error failure =>
      session.forM stage.stopStream
      return .error failure
    | .ok () => pure ()
  let bridge := router.uses .bridge
  return .ok ({ session, bridge }, { router with streams := session.isSome, bridges := bridge })

/-- Sends a frame through a session. -/
def streamFrame (stage : Stage m) (session : Session) (frame : Frame Float) : m Session := do
  let frame : Frame UInt64 := frame.map Float.toBits
  match session.packet frame with
  | none => return session
  | some packet =>
    if Packet.wholeSize < packet.length then
      stage.say .warn .stream
        s!"Payload size {packet.length} exceeds maximum {Packet.wholeSize}, sending anyway"
    match session.send frame (← stage.host.deliver packet) with
    | (next, .ok _) => return next
    | (next, .error error) =>
      stage.say .error .stream s!"Failed to send UDP packet: {error.message}"
      return next

/-- Gives the sinks their shares of a frame. -/
def deliver (stage : Stage m) (transports : Transports) (routed : Routed Float) :
    m Transports := do
  match transports.dry with
  | some counts => return { transports with dry := some (counts.add routed) }
  | none =>
    let session ← match transports.session, routed.stream with
      | some session, some frame => some <$> stage.streamFrame session frame
      | session, _ => pure session
    match routed.bridge with
    | some updates => stage.host.request updates
    | none => pure ()
    return { transports with session }

/-- Plays one block. -/
def playBlock (stage : Stage m) (state : Pipeline × Transports) (block : AudioFrame) :
    m (Pipeline × Transports) := do
  let (pipeline, report) := state.1.process block (← stage.host.await block)
  let transports ← stage.deliver state.2 report.routed
  match report.progress with
  | some progress => stage.say .info .pipeline progress.message
  | none => pure ()
  return (pipeline, transports)

/-- Ends the transports. -/
def shutdown (stage : Stage m) (transports : Transports) : m Unit := do
  match transports.session with
  | some session =>
    stage.stopStream session
    stage.say .info .program s!"UDP packet loss: {formatFixed 2 session.stats.loss}%"
  | none => pure ()
  if transports.bridge then
    stage.host.stopBridge
    stage.say .info .bridge "LowEffectController stopped"
  match transports.dry with
  | some counts =>
    stage.say .info .program
      s!"Dry run: {counts.streamed} fast frames, {counts.requested} low updates"
  | none => pure ()

/-- What is needed before the first block: the pipeline and the opened clip. -/
def prepare (stage : Stage m) (settings : AppSettings) (wave : String) (router : Router) :
    m (Except ShowFailure (Pipeline × WaveSource)) := do
  match Pipeline.prepare settings.audio settings.effect.effect router with
  | .error failure => return .error failure
  | .ok pipeline =>
    let reported := stage.filter.admits .info .pipeline
    stage.say .info .program
      s!"Driving {pipeline.lights.length} lights with the {settings.effect.title} effect"
    match WaveSource.openClip wave (← stage.host.look wave) with
    | .error failure => return .error failure
    | .ok source =>
      match source.spec, source.reader with
      | some spec, some reader =>
        stage.say .info .source
          (s!"Opened {wave}: {spec.sampleRate} Hz, {spec.channels} channel(s), "
            ++ s!"{reader.declared} samples")
      | _, _ => pure ()
      return .ok ({ pipeline with reported }, source)

/-- Plays a clip. The relay between reader and loop loses nothing, so that the blocks are processed
in the order of the clip. -/
def play (stage : Stage m) (settings : AppSettings) (dryRun : Bool) (wave : String) :
    m (Except ShowFailure Unit) := do
  let router ← stage.buildRouter settings.lightMap
  match ← stage.attach settings dryRun router with
  | .error failure => return .error failure
  | .ok (transports, router) =>
    match ← stage.prepare settings wave router with
    | .error failure =>
      transports.session.forM stage.stopStream
      return .error failure
    | .ok (pipeline, source) =>
      let (blocks, broken) := source.allBlocks
      let (pipeline, transports) ← blocks.foldlM stage.playBlock (pipeline, transports)
      broken.forM fun error => stage.say .error .pipeline s!"Audio read failed: {error.message}"
      stage.shutdown transports
      let stats := pipeline.stats
      stage.say .info .program
        s!"Done: {stats.frames} frames, {stats.beats} beats, {stats.updates} light updates"
      return .ok ()

end Stage

namespace Host

variable {m : Type → Type} [Monad m]

/-- The settings of a show, as its options change them. -/
def settings (host : Host m) (options : Options) : m (Except ShowFailure AppSettings) := do
  match options.config with
  | none => return .ok (options.apply {})
  | some path =>
    match (← host.look path).text? with
    | none => return .error (.settingsUnreadable path)
    | some text =>
      match AppSettings.read? text with
      | none => return .error (.settingsInvalid path)
      | some settings => return .ok (options.apply settings)

/-- Makes the directory of the log files, if there are to be any. -/
def ensureLogDirectory (host : Host m) (log : LogSettings) : m Bool :=
  if log.file then host.makeDirectory log.directory else pure true

/-- Prepares the log, with the directives that override its level. -/
def openLog (host : Host m) (log : LogSettings) (directives : String) :
    m (Except ShowFailure (Stage m)) := do
  let filter := LogFilter.read (LogLevel.ofName log.level) directives
  if !(← host.ensureLogDirectory log) then return .error .logDirectory
  if log.file then
    if !log.directory.isEmpty then host.rotateLogs log.directory log.maxFiles.toNat
    let path := joinPath log.directory (LogRotation.logName (← host.stamp))
    if !(← host.createLog path) then return .error (.logFile path)
  let stage : Stage m := ⟨host, log, filter⟩
  stage.say .info .logSetup s!"Logging initialized at level: {log.level}"
  return .ok stage

/-- Plays the show that the options describe. -/
def perform (host : Host m) (options : Options) (directives : String) : m Outcome := do
  match ← host.settings options with
  | .error failure => return .failed failure
  | .ok settings =>
    match options.printConfig, options.wave with
    | true, _ => return .printed settings.document
    | false, none => return .usage .missingWave
    | false, some wave =>
      match ← host.openLog settings.log directives with
      | .error failure => return .failed failure
      | .ok stage =>
        stage.say .info .program "Beatlight 0.2.0 starting"
        match ← stage.play settings options.dryRun wave with
        | .error failure => return .failed failure
        | .ok () => return .finished

/-- Does what a command line asks for. -/
def run (host : Host m) (arguments : List String) (directives : String) : m Outcome :=
  match Invocation.read arguments with
  | .error error => pure (.usage error)
  | .ok (.help full) => pure (.printed (Invocation.helpText full))
  | .ok .version => pure (.printed Invocation.versionText)
  | .ok (.play options) => host.perform options directives

end Host

end LightShow
