import LightShow.Log.Line

/-!
Log lines as they stand in a log, with the instant in universal time in front.
-/

set_option autoImplicit false

namespace LightShow

/-- A number in decimal digits, with zeros in front up to a width. -/
def paddedDigits (width n : Nat) : String :=
  let digits := Nat.toDigits 10 n
  String.ofList (List.replicate (width - digits.length) '0' ++ digits)

/-- Year, month and day of a day, counted from the first of January 1970. Years are taken to begin
in March, so that a leap day is the last day of its year. -/
def civilDate (day : Nat) : Nat × Nat × Nat :=
  let shifted := day + 719468
  let era := shifted / 146097
  let ofEra := shifted % 146097
  let yearOfEra := (ofEra - ofEra / 1460 + ofEra / 36524 - ofEra / 146096) / 365
  let ofYear := ofEra - (365 * yearOfEra + yearOfEra / 4 - yearOfEra / 100)
  let marchMonth := (5 * ofYear + 2) / 153
  let month := if marchMonth < 10 then marchMonth + 3 else marchMonth - 9
  let year := era * 400 + yearOfEra
  (if month ≤ 2 then year + 1 else year, month, ofYear - (153 * marchMonth + 2) / 5 + 1)

/-- An instant, in nanoseconds from the beginning of 1970, to the microsecond. -/
def instantText (nanoseconds : Nat) : String :=
  let seconds := nanoseconds / 1000000000
  let (year, month, day) := civilDate (seconds / 86400)
  let inDay := seconds % 86400
  paddedDigits 4 year ++ "-" ++ paddedDigits 2 month ++ "-" ++ paddedDigits 2 day ++ "T"
    ++ paddedDigits 2 (inDay / 3600) ++ ":" ++ paddedDigits 2 (inDay / 60 % 60) ++ ":"
    ++ paddedDigits 2 (inDay % 60) ++ "."
    ++ paddedDigits 6 (nanoseconds % 1000000000 / 1000) ++ "Z"

namespace LogLine

/-- The level, five characters wide. -/
def margin (line : LogLine) : String :=
  let label := line.level.label
  String.ofList (List.replicate (5 - label.length) ' ') ++ label

/-- The line on the console. -/
def consoleText (line : LogLine) (nanoseconds : Nat) : String :=
  instantText nanoseconds ++ " " ++ line.margin ++ " " ++ line.shownText

/-- The line in a log file, which names the part it comes from. -/
def fileText (line : LogLine) (nanoseconds : Nat) : String :=
  instantText nanoseconds ++ " " ++ line.margin ++ " " ++ line.part.name ++ ": " ++ line.shownText

end LogLine

end LightShow
