import LightShow.Text.Blank

/-!
Settings of the stream transport.
-/

set_option autoImplicit false

namespace LightShow

structure StreamSettings where
  targetHost : String := "127.0.0.1"
  targetPort : UInt16 := 2100
  deriving DecidableEq, Repr

inductive StreamSettingsError where
  | blankHost
  deriving DecidableEq, Repr

def StreamSettingsError.message : StreamSettingsError → String
  | .blankHost => "Invalid parameter: Target host cannot be empty"

namespace StreamSettings

def check (settings : StreamSettings) : Except StreamSettingsError Unit :=
  if isAllBlank settings.targetHost then .error .blankHost else .ok ()

/-- Host and port as they are looked up. -/
def target (settings : StreamSettings) : String :=
  s!"{settings.targetHost}:{settings.targetPort}"

end StreamSettings

end LightShow
