import LightShow.Text.Blank

/-!
Log levels and their names.
-/

set_option autoImplicit false

namespace LightShow

inductive LogLevel where
  | off
  | error
  | warn
  | info
  | debug
  | trace
  deriving DecidableEq, Repr

namespace LogLevel

def name : LogLevel → String
  | .off => "off"
  | .error => "error"
  | .warn => "warn"
  | .info => "info"
  | .debug => "debug"
  | .trace => "trace"

/-- A capital Latin letter as a small one, and any other character as it is. -/
def smallLetter (c : Char) : Char :=
  if 'A' ≤ c && c ≤ 'Z' then Char.ofNat (c.toNat + 32) else c

/-- The level of a name, in any case and with white space around it. An unknown name means
`info`. -/
def ofName (name : String) : LogLevel :=
  match String.ofList ((trimBlank name.toList).map smallLetter) with
  | "trace" => .trace
  | "debug" => .debug
  | "info" => .info
  | "warn" | "warning" => .warn
  | "error" => .error
  | "off" => .off
  | _ => .info

end LogLevel

end LightShow
