import LightShow.Audio.Features
import LightShow.Json.Record
import LightShow.Settings.Audio
import LightShow.Settings.Bridge
import LightShow.Settings.Log
import LightShow.Settings.Stream

/-!
Settings and features as records. A setting that is not given keeps its usual value.
-/

set_option autoImplicit false

namespace LightShow

/-- What the format of a document decides about settings. -/
structure SettingsFormat where
  number : JsonValue → Option Float
  choice : JsonValue → Option String

/-- JSON has finite numbers only. -/
def SettingsFormat.json : SettingsFormat :=
  ⟨JsonValue.float?, JsonValue.choice?⟩

namespace Window

def toJson (window : Window) : JsonValue :=
  .text window.name

def ofValue? (format : SettingsFormat) (value : JsonValue) : Option Window :=
  (format.choice value).bind ofName?

def ofJson? : JsonValue → Option Window :=
  ofValue? .json

end Window

namespace AudioSettings

def jsonNames : List String :=
  ["sample_rate", "fft_size", "window", "smoothing"]

def toJson (settings : AudioSettings) : JsonValue :=
  .object [("sample_rate", .int settings.sampleRate.toNat),
    ("fft_size", .int settings.transformSize.toNat),
    ("window", settings.window.toJson),
    ("smoothing", .float settings.smoothing)]

def ofRecord? (format : SettingsFormat) (record : JsonRecord) : Option AudioSettings := do
  let usual : AudioSettings := {}
  return {
    sampleRate := ← record.withDefault "sample_rate" JsonValue.uint32? usual.sampleRate
    transformSize := ← record.withDefault "fft_size" JsonValue.uint64? usual.transformSize
    window := ← record.withDefault "window" (Window.ofValue? format) usual.window
    smoothing := ← record.withDefault "smoothing" format.number usual.smoothing }

def ofJson? (value : JsonValue) : Option AudioSettings :=
  (value.record? jsonNames).bind (ofRecord? .json)

end AudioSettings

namespace StreamSettings

def jsonNames : List String :=
  ["target_host", "target_port"]

def toJson (settings : StreamSettings) : JsonValue :=
  .object [("target_host", .text settings.targetHost),
    ("target_port", .int settings.targetPort.toNat)]

def ofRecord? (record : JsonRecord) : Option StreamSettings := do
  let usual : StreamSettings := {}
  return {
    targetHost := ← record.withDefault "target_host" JsonValue.text? usual.targetHost
    targetPort := ← record.withDefault "target_port" JsonValue.uint16? usual.targetPort }

def ofJson? (value : JsonValue) : Option StreamSettings :=
  (value.record? jsonNames).bind ofRecord?

end StreamSettings

namespace BridgeSettings

def jsonNames : List String :=
  ["bridge_host", "api_key", "batch_window_ms", "requests_per_second"]

def toJson (settings : BridgeSettings) : JsonValue :=
  .object [("bridge_host", .text settings.bridgeHost),
    ("api_key", .text settings.apiKey),
    ("batch_window_ms", .int settings.batchWindow.toNat),
    ("requests_per_second", .float settings.requestsPerSecond)]

def ofRecord? (format : SettingsFormat) (record : JsonRecord) : Option BridgeSettings := do
  let usual : BridgeSettings := {}
  return {
    bridgeHost := ← record.withDefault "bridge_host" JsonValue.text? usual.bridgeHost
    apiKey := ← record.withDefault "api_key" JsonValue.text? usual.apiKey
    batchWindow := ← record.withDefault "batch_window_ms" JsonValue.uint64? usual.batchWindow
    requestsPerSecond :=
      ← record.withDefault "requests_per_second" format.number usual.requestsPerSecond }

def ofJson? (value : JsonValue) : Option BridgeSettings :=
  (value.record? jsonNames).bind (ofRecord? .json)

end BridgeSettings

namespace LogSettings

def jsonNames : List String :=
  ["level", "log_dir", "max_files", "console_output", "file_output"]

def toJson (settings : LogSettings) : JsonValue :=
  .object [("level", .text settings.level),
    ("log_dir", .text settings.directory),
    ("max_files", .int settings.maxFiles.toNat),
    ("console_output", .bool settings.console),
    ("file_output", .bool settings.file)]

def ofRecord? (record : JsonRecord) : Option LogSettings := do
  let usual : LogSettings := {}
  return {
    level := ← record.withDefault "level" JsonValue.text? usual.level
    directory := ← record.withDefault "log_dir" JsonValue.text? usual.directory
    maxFiles := ← record.withDefault "max_files" JsonValue.uint64? usual.maxFiles
    console := ← record.withDefault "console_output" JsonValue.bool? usual.console
    file := ← record.withDefault "file_output" JsonValue.bool? usual.file }

def ofJson? (value : JsonValue) : Option LogSettings :=
  (value.record? jsonNames).bind ofRecord?

end LogSettings

namespace Features

def jsonNames : List String :=
  ["frequency", "amplitude", "energy"]

def toJson (features : Features Float) : JsonValue :=
  .object [("frequency", .float features.frequency),
    ("amplitude", .float features.amplitude),
    ("energy", .float features.energy)]

def ofJson? (value : JsonValue) : Option (Features Float) := do
  let record ← value.record? jsonNames
  return {
    frequency := ← record.required "frequency" JsonValue.float?
    amplitude := ← record.required "amplitude" JsonValue.float?
    energy := ← record.required "energy" JsonValue.float? }

end Features

end LightShow
