import LightShow.Number.Format

/-!
Writing values of TOML documents. A string takes the plainest kind of quotes that needs no escapes.
-/

set_option autoImplicit false

namespace LightShow.Toml

/-- The longest run of a character. -/
def longestRun (c : Char) (text : List Char) : Nat :=
  (text.foldl (fun (run, longest) d =>
    let run := if d = c then run + 1 else 0
    (run, max longest run)) (0, 0)).2

/-- Whether a character can only be written as an escape. -/
def onlyEscaped (c : Char) : Bool :=
  (c.toNat < 0x20 && c != '\t' && c != '\n') || c.toNat == 0x7f

/-- A number in four hexadecimal digits. -/
def fourDigits (n : Nat) : List Char :=
  let digits := (Nat.toDigits 16 n).map Char.toUpper
  List.replicate (4 - digits.length) '0' ++ digits

/-- How a character other than a quote is written in a string with escapes. -/
def escapedChar (lines : Bool) (c : Char) : List Char :=
  match c with
  | '\x08' => ['\\', 'b']
  | '\t' => ['\\', 't']
  | '\n' => if lines then ['\n'] else ['\\', 'n']
  | '\x0c' => ['\\', 'f']
  | '\r' => ['\\', 'r']
  | '\\' => ['\\', '\\']
  | c => if onlyEscaped c then '\\' :: 'u' :: fourDigits c.toNat else [c]

/-- How many quotes may follow each other in a string with escapes. -/
def quotesInRow (lines : Bool) : Nat :=
  if lines then 2 else 0

/-- The text of a string with escapes, after so many quotes in a row. A quote is escaped only where
the row would grow too long. -/
def escapedText (lines : Bool) : Nat → List Char → List Char
  | _, [] => []
  | row, '"' :: rest =>
    if row < quotesInRow lines then '"' :: escapedText lines (row + 1) rest
    else '\\' :: '"' :: escapedText lines 0 rest
  | _, c :: rest => escapedChar lines c ++ escapedText lines 0 rest

/-- The kinds of strings. -/
inductive StringKind where
  /-- With escapes, in one line or over several lines. -/
  | basic (lines : Bool)
  /-- Without escapes, in one line or over several lines. -/
  | literal (lines : Bool)
  deriving DecidableEq, Repr

/-- The kind in which a text is written: in one line before several lines, and with escapes only
if none is needed or nothing else is left. -/
def StringKind.ofText (chars : List Char) : StringKind :=
  let special := chars.any onlyEscaped
  let slashed := chars.contains '\\'
  let broken := chars.contains '\n'
  if !special && !slashed && !broken && !chars.contains '"' then .basic false
  else if !special && !broken && !chars.contains '\'' then .literal false
  else if !special && !slashed && longestRun '"' chars ≤ 2 then .basic true
  else if !special && longestRun '\'' chars ≤ 2 then .literal true
  else .basic broken

/-- A string of a document. Over several lines its text begins on a line of its own if it has more
than one. -/
def stringText (text : String) : String :=
  let chars := text.toList
  let lineEnd := if chars.contains '\n' then "\n" else ""
  match StringKind.ofText chars with
  | .basic false => "\"" ++ String.ofList (escapedText false 0 chars) ++ "\""
  | .literal false => "'" ++ text ++ "'"
  | .basic true => "\"\"\"" ++ lineEnd ++ String.ofList (escapedText true 0 chars) ++ "\"\"\""
  | .literal true => "'''" ++ lineEnd ++ text ++ "'''"

def numberText (x : Float) : String :=
  formatNumber .settings x

def boolText (value : Bool) : String :=
  if value then "true" else "false"

/-- One line of a document. -/
def line (name value : String) : String :=
  name ++ " = " ++ value ++ "\n"

/-- The line that opens a table, after an empty one. -/
def opening (name : String) : String :=
  "\n[" ++ name ++ "]\n"

end LightShow.Toml
