import LightShow.Text.Numeral
import LightShow.Json.Value

/-!
The smallest parts of TOML documents: strings, names, numbers, dates. Each reader takes what it
reads from the front of a text and gives the rest.
-/

set_option autoImplicit false

namespace LightShow.Toml

/-- Control characters stand nowhere, the tab apart. -/
def isControl (c : Char) : Bool :=
  (c.toNat < 0x20 && c != '\t') || c.toNat == 0x7f

def isGap (c : Char) : Bool :=
  c == ' ' || c == '\t'

/-- Leaves out blanks within a line. -/
def skipGap (text : List Char) : List Char :=
  text.dropWhile isGap

/-- The rest of a comment and the end of its line. -/
def endComment : List Char → Option (List Char)
  | [] => some []
  | '\n' :: rest => some rest
  | '\r' :: '\n' :: rest => some rest
  | c :: rest => if isControl c then none else endComment rest

/-- What may follow an expression in its line: blanks, a comment. -/
def endLine (text : List Char) : Option (List Char) :=
  match skipGap text with
  | [] => some []
  | '\n' :: rest => some rest
  | '\r' :: '\n' :: rest => some rest
  | '#' :: rest => endComment rest
  | _ => none

/-- Leaves out blanks, line ends and comments. -/
def skipLines (inComment : Bool) : List Char → Option (List Char)
  | [] => some []
  | '\n' :: rest => skipLines false rest
  | '\r' :: '\n' :: rest => skipLines false rest
  | c :: rest =>
    if inComment then (if isControl c then none else skipLines true rest)
    else if isGap c then skipLines false rest
    else if c == '#' then skipLines true rest
    else some (c :: rest)

/-- The character whose number is written in hexadecimal digits. -/
def scalar? (digits : List Char) : Option Char := do
  let number ← basedValue? 16 digits
  if number.isValidChar then some (Char.ofNat number) else none

/-- The character of an escape that is one letter long. -/
def escape? : Char → Option Char
  | 'b' => some '\x08'
  | 't' => some '\t'
  | 'n' => some '\n'
  | 'f' => some '\x0c'
  | 'r' => some '\r'
  | 'e' => some '\x1b'
  | '"' => some '"'
  | '\\' => some '\\'
  | _ => none

/-- Puts a character in front of what is read after it. -/
def consText (c : Char) (read : Option (List Char × List Char)) :
    Option (List Char × List Char) :=
  read.map fun (text, rest) => (c :: text, rest)

/-- A string on one line with escapes, after its opening quote. -/
def basicText : List Char → Option (List Char × List Char)
  | [] => none
  | '"' :: rest => some ([], rest)
  | '\\' :: 'x' :: a :: b :: rest => do consText (← scalar? [a, b]) (basicText rest)
  | '\\' :: 'u' :: a :: b :: c :: d :: rest => do
    consText (← scalar? [a, b, c, d]) (basicText rest)
  | '\\' :: 'U' :: a :: b :: c :: d :: e :: f :: g :: h :: rest => do
    consText (← scalar? [a, b, c, d, e, f, g, h]) (basicText rest)
  | '\\' :: c :: rest => do consText (← escape? c) (basicText rest)
  | c :: rest => if isControl c then none else consText c (basicText rest)

/-- A string on one line without escapes, after its opening quote. -/
def literalText : List Char → Option (List Char × List Char)
  | [] => none
  | '\'' :: rest => some ([], rest)
  | c :: rest => if isControl c then none else consText c (literalText rest)

/-- What a backslash at the end of a line leaves out. -/
inductive Skipping where
  | nothing
  /-- Blanks up to the end of the line. -/
  | line
  /-- Blanks and line ends. -/
  | all
  deriving DecidableEq, Repr

/-- A string over several lines with escapes, after its opening quotes. Line ends are kept as they
are written, and up to two quotes may stand before the closing ones. -/
def basicLines (skipping : Skipping) : List Char → Option (List Char × List Char)
  | [] => none
  | '\n' :: rest =>
    if skipping = .nothing then consText '\n' (basicLines .nothing rest) else basicLines .all rest
  | '\r' :: '\n' :: rest =>
    if skipping = .nothing then consText '\r' (consText '\n' (basicLines .nothing rest))
    else basicLines .all rest
  | ' ' :: rest =>
    if skipping = .nothing then consText ' ' (basicLines .nothing rest)
    else basicLines skipping rest
  | '\t' :: rest =>
    if skipping = .nothing then consText '\t' (basicLines .nothing rest)
    else basicLines skipping rest
  | '"' :: '"' :: '"' :: '"' :: '"' :: rest =>
    if skipping = .line then none else some (['"', '"'], rest)
  | '"' :: '"' :: '"' :: '"' :: rest => if skipping = .line then none else some (['"'], rest)
  | '"' :: '"' :: '"' :: rest => if skipping = .line then none else some ([], rest)
  | '\\' :: 'x' :: a :: b :: rest => do
    if skipping = .line then none
    else consText (← scalar? [a, b]) (basicLines .nothing rest)
  | '\\' :: 'u' :: a :: b :: c :: d :: rest => do
    if skipping = .line then none
    else consText (← scalar? [a, b, c, d]) (basicLines .nothing rest)
  | '\\' :: 'U' :: a :: b :: c :: d :: e :: f :: g :: h :: rest => do
    if skipping = .line then none
    else consText (← scalar? [a, b, c, d, e, f, g, h]) (basicLines .nothing rest)
  | '\\' :: '\n' :: rest => if skipping = .line then none else basicLines .all rest
  | '\\' :: '\r' :: '\n' :: rest => if skipping = .line then none else basicLines .all rest
  | '\\' :: c :: rest =>
    if skipping = .line then none
    else if isGap c then basicLines .line rest
    else do consText (← escape? c) (basicLines .nothing rest)
  | c :: rest =>
    if skipping = .line || isControl c then none else consText c (basicLines .nothing rest)

/-- A string over several lines without escapes, after its opening quotes. -/
def literalLines : List Char → Option (List Char × List Char)
  | [] => none
  | '\'' :: '\'' :: '\'' :: '\'' :: '\'' :: rest => some (['\'', '\''], rest)
  | '\'' :: '\'' :: '\'' :: '\'' :: rest => some (['\''], rest)
  | '\'' :: '\'' :: '\'' :: rest => some ([], rest)
  | '\n' :: rest => consText '\n' (literalLines rest)
  | '\r' :: '\n' :: rest => consText '\r' (consText '\n' (literalLines rest))
  | c :: rest => if isControl c then none else consText c (literalLines rest)

/-- A line end right after the opening quotes does not count. -/
def skipFirstLineEnd : List Char → List Char
  | '\n' :: rest => rest
  | '\r' :: '\n' :: rest => rest
  | text => text

/-- A string of any kind, if one begins here. -/
def string? (text : List Char) : Option (String × List Char) :=
  let read := match text with
    | '"' :: '"' :: '"' :: rest => basicLines .nothing (skipFirstLineEnd rest)
    | '"' :: rest => basicText rest
    | '\'' :: '\'' :: '\'' :: rest => literalLines (skipFirstLineEnd rest)
    | '\'' :: rest => literalText rest
    | _ => none
  read.map fun (chars, rest) => (String.ofList chars, rest)

/-- Whether a character may stand in a name without quotes. -/
def isBare (c : Char) : Bool :=
  c.isAlphanum || c == '_' || c == '-'

/-- One name of a path. -/
def name? (text : List Char) : Option (String × List Char) :=
  match text with
  | '"' :: rest => (basicText rest).map fun (chars, rest) => (String.ofList chars, rest)
  | '\'' :: rest => (literalText rest).map fun (chars, rest) => (String.ofList chars, rest)
  | _ =>
    let bare := text.takeWhile isBare
    if bare.isEmpty then none else some (String.ofList bare, text.dropWhile isBare)

/-! ### Numbers -/

/-- Digits of a kind with single underscores between them, without the underscores. -/
def digits? (isDigit : Char → Bool) : List Char → Option (List Char)
  | [] => none
  | [c] => if isDigit c then some [c] else none
  | c :: '_' :: rest => if isDigit c then (digits? isDigit rest).map (c :: ·) else none
  | c :: rest => if isDigit c then (digits? isDigit rest).map (c :: ·) else none

/-- Decimal digits that begin with a zero only if there is nothing else. -/
def wholeDigits? (text : List Char) : Option (List Char) := do
  let digits ← digits? isDecimalDigit text
  if digits.head? = some '0' ∧ 1 < digits.length then none else some digits

/-- Whether a sign stands in front, and the rest. -/
def splitSign : List Char → Bool × List Char
  | '-' :: rest => (true, rest)
  | '+' :: rest => (false, rest)
  | text => (false, text)

/-- Digits of a base, as a number. -/
def based? (base : Nat) (text : List Char) : Option Nat := do
  basedValue? base (← digits? (fun c => (hexDigit? c).any (· < base)) text)

/-- An integer. One beyond 64 bits has no meaning, and one beyond 128 bits is none. -/
def integer? (text : List Char) : Option JsonValue := do
  let (negative, magnitude) := splitSign text
  let number : Int ← match text with
    | '0' :: 'x' :: rest => (based? 16 rest).map Int.ofNat
    | '0' :: 'o' :: rest => (based? 8 rest).map Int.ofNat
    | '0' :: 'b' :: rest => (based? 2 rest).map Int.ofNat
    | _ => (wholeDigits? magnitude).map fun digits =>
      if negative then -(digitsValue 0 digits : Int) else digitsValue 0 digits
  if Int64.minValue.toInt ≤ number ∧ number < UInt64.size then some (.int number)
  else if -(Nat.pow 2 127 : Int) ≤ number ∧ number < (Nat.pow 2 128 : Int) then some .illegible
  else none

/-- The number of digits times a power of ten, unless it is beyond all finite numbers. -/
def scaled? (digits : List Char) (exponent : Int) : Option Float :=
  let mantissa := digitsValue 0 digits
  let top := exponent + digits.length
  if mantissa = 0 ∨ top < -400 then some 0
  else if 1000 < top - (digits.takeWhile (· == '0')).length then none
  else
    let value := Float.ofScientific mantissa (exponent < 0) exponent.natAbs
    if value.isFinite then some value else none

/-- The exponent of a number, after its mark. -/
def exponent? (text : List Char) : Option Int := do
  let (negative, magnitude) := splitSign text
  let digits ← digits? isDecimalDigit magnitude
  return if negative then -(digitsValue 0 digits : Int) else digitsValue 0 digits

/-- A magnitude with a fraction, an exponent or both. -/
def magnitude? (text : List Char) : Option Float := do
  let isMark (c : Char) : Bool := c == 'e' || c == 'E'
  let mantissa := text.takeWhile fun c => !isMark c
  let exponent ← match text.dropWhile fun c => !isMark c with
    | [] => some 0
    | _ :: rest => exponent? rest
  let whole ← wholeDigits? (mantissa.takeWhile (· != '.'))
  match mantissa.dropWhile (· != '.') with
  | [] => if text.any isMark then scaled? whole exponent else none
  | _ :: rest =>
    let fraction ← digits? isDecimalDigit rest
    scaled? (whole ++ fraction) (exponent - fraction.length)

/-- A number that is no integer. -/
def float? (text : List Char) : Option JsonValue := do
  let (negative, magnitude) := splitSign text
  let value ←
    if magnitude = "inf".toList then some (1 / 0 : Float)
    else if magnitude = "nan".toList then some (0 / 0)
    else magnitude? magnitude
  return .float (if negative then -value else value)

/-! ### Dates -/

/-- Two digits with a value in a range. -/
def twoDigits? (low high : Nat) : List Char → Option (List Char)
  | a :: b :: rest =>
    if isDecimalDigit a && isDecimalDigit b && low ≤ digitsValue 0 [a, b]
      && digitsValue 0 [a, b] ≤ high then some rest
    else none
  | _ => none

/-- A given character. -/
def mark? (mark : Char) : List Char → Option (List Char)
  | c :: rest => if c = mark then some rest else none
  | [] => none

/-- How many days a month has. -/
def monthDays (year month : Nat) : Nat :=
  if month = 2 then
    if year % 4 = 0 ∧ (year % 100 ≠ 0 ∨ year % 400 = 0) then 29 else 28
  else if month = 4 ∨ month = 6 ∨ month = 9 ∨ month = 11 then 30
  else 31

/-- A day of the calendar. -/
def date? (text : List Char) : Option (List Char) := do
  let year := text.take 4
  if year.length = 4 ∧ year.all isDecimalDigit then
    let rest ← mark? '-' (text.drop 4)
    let afterMonth ← twoDigits? 1 12 rest
    let days := monthDays (digitsValue 0 year) (digitsValue 0 (rest.take 2))
    twoDigits? 1 days (← mark? '-' afterMonth)
  else none

/-- Seconds, which may have a fraction. -/
def seconds? (text : List Char) : Option (List Char) := do
  match ← twoDigits? 0 60 text with
  | '.' :: fraction =>
    if (fraction.takeWhile isDecimalDigit).isEmpty then none
    else some (fraction.dropWhile isDecimalDigit)
  | rest => some rest

/-- A time of the day, to the minute or to the second. -/
def time? (text : List Char) : Option (List Char) := do
  match ← twoDigits? 0 59 (← mark? ':' (← twoDigits? 0 23 text)) with
  | ':' :: rest => seconds? rest
  | rest => some rest

/-- The distance from universal time. -/
def offset? : List Char → Option (List Char)
  | 'Z' :: rest => some rest
  | 'z' :: rest => some rest
  | '+' :: rest => do twoDigits? 0 59 (← mark? ':' (← twoDigits? 0 23 rest))
  | '-' :: rest => do twoDigits? 0 59 (← mark? ':' (← twoDigits? 0 23 rest))
  | text => some text

/-- A date, a time of the day, or both. -/
def isMoment (text : List Char) : Bool :=
  match date? text with
  | some [] => true
  | some (c :: rest) =>
    (c == 'T' || c == 't' || c == ' ') && ((time? rest).bind offset?) == some []
  | none => time? text == some []

/-- A date as a record with a name that no setting has. -/
def moment (text : List Char) : JsonValue :=
  .object [("date", .text (String.ofList text))]

/-- Whether a character may stand in a value without quotes. -/
def isPlain (c : Char) : Bool :=
  c.isAlphanum || c == '+' || c == '-' || c == '_' || c == '.' || c == ':'

/-- The text of a value without quotes. A blank may stand between a date and a time. -/
def plainText (text : List Char) : List Char × List Char :=
  let word := text.takeWhile isPlain
  match text.dropWhile isPlain with
  | ' ' :: rest =>
    if date? word == some [] && (rest.head?.any isDecimalDigit) then
      (word ++ ' ' :: rest.takeWhile isPlain, rest.dropWhile isPlain)
    else (word, ' ' :: rest)
  | rest => (word, rest)

/-- A value without quotes and brackets. -/
def plain? (text : List Char) : Option (JsonValue × List Char) := do
  let (word, rest) := plainText text
  let value ←
    if word = "true".toList then some (.bool true)
    else if word = "false".toList then some (.bool false)
    else if isMoment word then some (moment word)
    else (integer? word).orElse fun _ => float? word
  return (value, rest)

end LightShow.Toml
