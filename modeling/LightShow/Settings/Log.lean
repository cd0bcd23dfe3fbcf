/-!
Settings of the log.
-/

set_option autoImplicit false

namespace LightShow

structure LogSettings where
  level : String := "info"
  directory : String := "logs"
  /-- How many log files are kept. -/
  maxFiles : UInt64 := 10
  console : Bool := true
  file : Bool := false
  deriving DecidableEq, Repr

end LightShow
