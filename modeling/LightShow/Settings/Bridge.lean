import LightShow.Number.Format
import LightShow.Text.Blank
import LightShow.Text.Quoted

/-!
Settings of the bridge transport.
-/

set_option autoImplicit false

namespace LightShow

structure BridgeSettings where
  bridgeHost : String := ""
  apiKey : String := ""
  /-- The flush period in milliseconds. -/
  batchWindow : UInt64 := 100
  /-- The limit on the request rate. -/
  requestsPerSecond : Float := 10
  deriving Repr

inductive BridgeSettingsError where
  | blankHost
  | zeroWindow
  | badRate (rate : Float)
  deriving Repr

def BridgeSettingsError.message : BridgeSettingsError → String
  | .blankHost => "Invalid parameter: Bridge host cannot be empty"
  | .zeroWindow => "Invalid parameter: Batch window must be positive"
  | .badRate rate =>
    "Invalid parameter: Requests per second must be positive, got "
      ++ formatNumber .message rate

namespace BridgeSettings

/-- The first thing that is wrong, if any. -/
def check (settings : BridgeSettings) : Except BridgeSettingsError Unit :=
  if isAllBlank settings.bridgeHost then .error .blankHost
  else if settings.batchWindow = 0 then .error .zeroWindow
  else if 0 < settings.requestsPerSecond && settings.requestsPerSecond.isFinite then .ok ()
  else .error (.badRate settings.requestsPerSecond)

/-- The least distance between two requests in whole milliseconds, as far as 64 bits reach. -/
def interval (settings : BridgeSettings) : UInt64 :=
  (1000 / settings.requestsPerSecond).toUInt64

/-- The settings as a report shows them, without the key. -/
def report (settings : BridgeSettings) : String :=
  "LowEffectConfig \x7b bridge_host: " ++ quoted settings.bridgeHost
    ++ ", api_key: \"***REDACTED***\", batch_window_ms: " ++ toString settings.batchWindow
    ++ ", requests_per_second: " ++ formatNumber .report settings.requestsPerSecond ++ " \x7d"

end BridgeSettings

end LightShow
