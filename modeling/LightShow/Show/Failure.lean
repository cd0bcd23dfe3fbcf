import LightShow.Audio.Spectrum
import LightShow.Audio.WaveSource
import LightShow.Settings.Bridge
import LightShow.Settings.Stream
import LightShow.Text.Quoted

/-!
Why a show cannot go on. Each failure says what was being done, and some also what came in the way.
-/

set_option autoImplicit false

namespace LightShow

inductive ShowFailure where
  | settingsUnreadable (path : String)
  | settingsInvalid (path : String)
  | logDirectory
  | logFile (path : String)
  | streamSettings (cause : StreamSettingsError)
  | streamStart
  | bridgeSettings (cause : BridgeSettingsError)
  | bridgeStart
  | audioSettings (cause : SpectrumError)
  | audioFile (path : String) (cause : SourceError)
  deriving Repr

namespace ShowFailure

/-- What was being done. -/
def context : ShowFailure → String
  | .settingsUnreadable path => "Failed to read config file " ++ quoted path
  | .settingsInvalid path => "Invalid config file " ++ quoted path
  | .logDirectory => "Failed to create log directory"
  | .logFile path => "Failed to create log file: " ++ quoted path
  | .streamSettings _ => "Invalid fast transport configuration"
  | .streamStart => "Failed to start UDP session"
  | .bridgeSettings _ => "Invalid low transport configuration"
  | .bridgeStart => "Failed to start HTTP controller"
  | .audioSettings _ => "Invalid audio configuration"
  | .audioFile path _ => "Failed to open audio file " ++ quoted path

/-- What came in the way, where there are words for it. -/
def cause? : ShowFailure → Option String
  | .streamSettings cause => some cause.message
  | .bridgeSettings cause => some cause.message
  | .audioSettings cause => some cause.message
  | .audioFile _ cause => some cause.message
  | _ => none

/-- What was being done and what came in the way. -/
def message (failure : ShowFailure) : String :=
  match failure.cause? with
  | some cause => failure.context ++ ": " ++ cause
  | none => failure.context

end ShowFailure

end LightShow
