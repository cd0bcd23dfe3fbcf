import LightShow.Effect.Basic
import LightShow.Settings.Json
import LightShow.Toml.Reader
import LightShow.Toml.Writer

/-!
All settings of a show, and the document they are kept in.
-/

set_option autoImplicit false

namespace LightShow

/-- Which effect turns sound into light. -/
inductive EffectKind where
  | pulse
  | energy
  deriving DecidableEq, Repr

namespace EffectKind

def name : EffectKind → String
  | .pulse => "pulse"
  | .energy => "energy"

/-- The name in a message. -/
def title : EffectKind → String
  | .pulse => "Pulse"
  | .energy => "Energy"

def ofName? (name : String) : Option EffectKind :=
  if name = EffectKind.pulse.name then some .pulse
  else if name = EffectKind.energy.name then some .energy
  else none

/-- The effect at its beginning, with its usual parameters. -/
def effect : EffectKind → Effect
  | .pulse => .pulse (Pulse.create Pulse.usualDecay Pulse.usualHueStep)
  | .energy => .energy {}

end EffectKind

structure AppSettings where
  audio : AudioSettings := {}
  effect : EffectKind := .pulse
  stream : StreamSettings := {}
  bridge : BridgeSettings := {}
  /-- The path of the light map, empty if there is none. -/
  lightMap : String := ""
  log : LogSettings := {}
  deriving Repr

/-- Whether a table or an array is empty. -/
def JsonValue.isEmptyBlock : JsonValue → Bool
  | .array [] | .object [] => true
  | _ => false

/-- TOML has numbers that are not finite, and an empty block for nothing. -/
def SettingsFormat.toml : SettingsFormat :=
  ⟨JsonValue.number?, JsonValue.choiceWith? JsonValue.isEmptyBlock⟩

/-- A section as a record. What an array has beyond the fields of the section does not count. -/
def JsonValue.section? (names : List String) : JsonValue → Option JsonRecord
  | .array items => (JsonValue.array (items.take names.length)).record? names
  | value => value.record? names

namespace AppSettings

def names : List String :=
  ["audio", "effect", "fast", "low", "light_map", "log"]

def toJson (settings : AppSettings) : JsonValue :=
  .object [("audio", settings.audio.toJson),
    ("effect", .text settings.effect.name),
    ("fast", settings.stream.toJson),
    ("low", settings.bridge.toJson),
    ("light_map", .text settings.lightMap),
    ("log", settings.log.toJson)]

def ofDocument? (document : JsonValue) : Option AppSettings := do
  let record ← document.record? names
  let usual : AppSettings := {}
  let block {α : Type} (names : List String) (read : JsonRecord → Option α) (value : JsonValue) :
      Option α := (value.section? names).bind read
  return {
    audio := ← record.withDefault "audio"
      (block AudioSettings.jsonNames (AudioSettings.ofRecord? .toml)) usual.audio
    effect := ← record.withDefault "effect"
      (fun value => (SettingsFormat.toml.choice value).bind EffectKind.ofName?) usual.effect
    stream := ← record.withDefault "fast"
      (block StreamSettings.jsonNames StreamSettings.ofRecord?) usual.stream
    bridge := ← record.withDefault "low"
      (block BridgeSettings.jsonNames (BridgeSettings.ofRecord? .toml)) usual.bridge
    lightMap := ← record.withDefault "light_map" JsonValue.text? usual.lightMap
    log := ← record.withDefault "log"
      (block LogSettings.jsonNames LogSettings.ofRecord?) usual.log }

/-- The settings in a TOML document. -/
def read? (text : String) : Option AppSettings :=
  (Toml.read? text).bind ofDocument?

/-- The settings as a TOML document. -/
def document (settings : AppSettings) : String :=
  let audio := settings.audio
  let stream := settings.stream
  let bridge := settings.bridge
  let log := settings.log
  String.join [
    Toml.line "effect" (Toml.stringText settings.effect.name),
    Toml.line "light_map" (Toml.stringText settings.lightMap),
    Toml.opening "audio",
    Toml.line "sample_rate" (toString audio.sampleRate),
    Toml.line "fft_size" (toString audio.transformSize),
    Toml.line "window" (Toml.stringText audio.window.name),
    Toml.line "smoothing" (Toml.numberText audio.smoothing),
    Toml.opening "fast",
    Toml.line "target_host" (Toml.stringText stream.targetHost),
    Toml.line "target_port" (toString stream.targetPort),
    Toml.opening "low",
    Toml.line "bridge_host" (Toml.stringText bridge.bridgeHost),
    Toml.line "api_key" (Toml.stringText bridge.apiKey),
    Toml.line "batch_window_ms" (toString bridge.batchWindow),
    Toml.line "requests_per_second" (Toml.numberText bridge.requestsPerSecond),
    Toml.opening "log",
    Toml.line "level" (Toml.stringText log.level),
    Toml.line "log_dir" (Toml.stringText log.directory),
    Toml.line "max_files" (toString log.maxFiles),
    Toml.line "console_output" (Toml.boolText log.console),
    Toml.line "file_output" (Toml.boolText log.file)]

end AppSettings

end LightShow
