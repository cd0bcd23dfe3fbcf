import LightShow.Log.Level

/-!
Log lines: how grave they are, which part of the program they come from, and what they say.
-/

set_option autoImplicit false

namespace LightShow

/-- A part of the program that writes log lines. -/
inductive LogPart where
  | program
  | logSetup
  | pipeline
  | source
  | lightMap
  | router
  | stream
  | bridge
  deriving DecidableEq, Repr

/-- The name a directive knows a part by. -/
def LogPart.name : LogPart → String
  | .program => "beatlight"
  | .logSetup => "beatlight::logging_setup"
  | .pipeline => "beatlight::pipeline"
  | .source => "beatlight_core::audio::source"
  | .lightMap => "beatlight_control::hue::lightmap"
  | .router => "beatlight_control::hue::router"
  | .stream => "beatlight_control::hue::stream::controller"
  | .bridge => "beatlight_control::hue::controller"

namespace LogLevel

/-- How much a level lets through. -/
def rank : LogLevel → Nat
  | .off => 0
  | .error => 1
  | .warn => 2
  | .info => 3
  | .debug => 4
  | .trace => 5

/-- The level as a line shows it. -/
def label (level : LogLevel) : String :=
  String.ofList (level.name.toList.map Char.toUpper)

end LogLevel

structure LogLine where
  level : LogLevel
  part : LogPart
  text : String
  deriving DecidableEq, Repr

namespace LogLine

/-- A character as a log shows it. Those by which a terminal could be commanded are written by their
numbers: escape, bell, backspace, form feed, delete and the controls beyond it. -/
def shownChar (c : Char) : List Char :=
  let digits := Nat.toDigits 16 c.toNat
  if ['\x07', '\x08', '\x0c', '\x1b', '\x7f'].contains c then
    '\\' :: 'x' :: List.replicate (2 - digits.length) '0' ++ digits
  else if 0x80 ≤ c.toNat ∧ c.toNat ≤ 0x9f then '\\' :: 'u' :: '\x7b' :: digits ++ ['\x7d']
  else [c]

/-- What a line says, as a log shows it. -/
def shownText (line : LogLine) : String :=
  String.ofList (line.text.toList.flatMap shownChar)

/-- A text up to its first line end, which is a line feed with a carriage return before it or
not. -/
def firstLine (text : List Char) : List Char :=
  let line := text.takeWhile (· ≠ '\n')
  if line.getLast? = some '\r' then line.dropLast else line

/-- The level and what stands beside it in the same line. -/
def headline (line : LogLine) : String :=
  line.level.label ++ " " ++ String.ofList (firstLine line.shownText.toList)

end LogLine

end LightShow
