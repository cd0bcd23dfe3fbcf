import LightShow.Json.Value
import LightShow.Text.Numeral

/-!
JSON tokens: the punctuation and the values that have no parts. Nothing is skipped but space, tab,
carriage return and line feed.
-/

set_option autoImplicit false

namespace LightShow

inductive JsonToken where
  | beginArray
  | endArray
  | beginObject
  | endObject
  | colon
  | comma
  | value (value : JsonValue)
  deriving Repr

namespace JsonToken

/-! ### Numbers -/

/-- Takes in digits as long as the number they make fits in 64 bits. Gives the number, how many
digits were taken and the digits that are left. -/
def takeDigits : Nat → Nat → List Char → Nat × Nat × List Char
  | n, count, [] => (n, count, [])
  | n, count, c :: rest =>
    let next := n * 10 + (c.toNat - '0'.toNat)
    if next < UInt64.size then takeDigits next (count + 1) rest else (n, count, c :: rest)

/-- A power of ten, as far as there is a finite one. -/
def powerOfTen? (exponent : Nat) : Option Float :=
  if exponent ≤ 308 then some (Float.ofScientific 1 false exponent) else none

/-- A number scaled by a power of ten. Each step rounds; too large a result is infinite. -/
def scale : Nat → Float → Int → Float
  | 0, x, _ => x
  | fuel + 1, x, exponent =>
    match powerOfTen? exponent.natAbs with
    | some power => if 0 ≤ exponent then x * power else x / power
    | none =>
      if x == 0 then x
      else if 0 ≤ exponent then 1 / 0
      else scale fuel (x / Float.ofScientific 1 false 308) (exponent + 308)

/-- The number of a literal, from its sign and its digits before the point, after it and in the
exponent. Digits that do not fit in 64 bits are dropped. -/
def decimalValue (negative : Bool) (whole places : List Char) (exponent : Int) : Float :=
  let (head, _, dropped) := takeDigits 0 0 whole
  let (significand, kept, _) := takeDigits head 0 places
  let x := scale 4 (UInt64.ofNat significand).toFloat (dropped.length - kept + exponent)
  if negative then -x else x

/-- The value of an integer literal: an integer if it fits in 64 bits, unless it is minus zero. -/
def integerValue (negative : Bool) (digits : List Char) : JsonValue :=
  let n := digitsValue 0 digits
  if negative then
    if 0 < n ∧ n ≤ Nat.pow 2 63 then .int (-n) else .float (decimalValue true digits [] 0)
  else if n < UInt64.size then .int n else .float (decimalValue false digits [] 0)

/-- Splits off the digits at the front. -/
def spanDigits (text : List Char) : List Char × List Char :=
  text.span isDecimalDigit

/-- The exponent of a literal, read up to its end. -/
def exponent? : List Char → Option Int
  | [] => some 0
  | mark :: rest =>
    let (negative, digits) := match rest with
      | '+' :: digits => (false, digits)
      | '-' :: digits => (true, digits)
      | digits => (false, digits)
    if (mark = 'e' ∨ mark = 'E') ∧ !digits.isEmpty ∧ digits.all isDecimalDigit then
      some (if negative then -(digitsValue 0 digits : Int) else digitsValue 0 digits)
    else none

/-- The value of a number literal: digits without leading zeros, then possibly a point with digits
and an exponent. -/
def number? (literal : List Char) : Option JsonValue :=
  let (negative, unsigned) := match literal with
    | '-' :: rest => (true, rest)
    | rest => (false, rest)
  let (whole, rest) := spanDigits unsigned
  if whole.isEmpty ∨ (whole.head? = some '0' ∧ 1 < whole.length) then none
  else
    match rest with
    | [] => some (integerValue negative whole)
    | '.' :: rest =>
      let (places, rest) := spanDigits rest
      if places.isEmpty then none
      else (exponent? rest).map fun e => .float (decimalValue negative whole places e)
    | rest => (exponent? rest).map fun e => .float (decimalValue negative whole [] e)

/-- Whether a character may stand in a number literal. -/
def isNumberChar (c : Char) : Bool :=
  isDecimalDigit c || c == '+' || c == '-' || c == '.' || c == 'e' || c == 'E'

/-! ### Words and strings -/

def word? (letters : List Char) : Option JsonValue :=
  if letters = ['n', 'u', 'l', 'l'] then some .null
  else if letters = ['t', 'r', 'u', 'e'] then some (.bool true)
  else if letters = ['f', 'a', 'l', 's', 'e'] then some (.bool false)
  else none

def isLetter (c : Char) : Bool :=
  ('a' ≤ c && c ≤ 'z') || ('A' ≤ c && c ≤ 'Z')

/-- The code unit of four hexadecimal digits. -/
def hexUnit? (a b c d : Char) : Option Nat :=
  basedValue? 16 [a, b, c, d]

/-- The character of a one-letter escape. -/
def escaped? : Char → Option Nat
  | '"' => some 0x22
  | '\\' => some 0x5C
  | '/' => some 0x2F
  | 'b' => some 0x08
  | 'f' => some 0x0C
  | 'n' => some 0x0A
  | 'r' => some 0x0D
  | 't' => some 0x09
  | _ => none

/-- The code points and escaped units of a string up to its closing quote, and what comes after.
The code points so far are kept in reverse. -/
def stringUnits? : List Nat → List Char → Option (List Nat × List Char)
  | _, [] => none
  | units, '"' :: rest => some (units.reverse, rest)
  | units, '\\' :: 'u' :: a :: b :: c :: d :: rest =>
    (hexUnit? a b c d).bind fun unit => stringUnits? (unit :: units) rest
  | units, '\\' :: c :: rest => (escaped? c).bind fun unit => stringUnits? (unit :: units) rest
  | units, c :: rest =>
    if c = '\\' ∨ c.toNat < 0x20 then none else stringUnits? (c.toNat :: units) rest

/-- Joins surrogate pairs. Fails on half a pair. -/
def pairUnits? : List Nat → Option (List Char)
  | [] => some []
  | high :: rest =>
    if 0xD800 ≤ high ∧ high < 0xDC00 then
      match rest with
      | low :: rest =>
        if 0xDC00 ≤ low ∧ low < 0xE000 then
          (pairUnits? rest).map
            (Char.ofNat (0x10000 + (high - 0xD800) * 0x400 + (low - 0xDC00)) :: ·)
        else none
      | [] => none
    else if 0xDC00 ≤ high ∧ high < 0xE000 then none
    else (pairUnits? rest).map (Char.ofNat high :: ·)

/-- The value of a string with these units. -/
def textValue (units : List Nat) : JsonValue :=
  match pairUnits? units with
  | some chars => .text (String.ofList chars)
  | none => .illegible

/-! ### Scanning -/

def punctuation? : Char → Option JsonToken
  | '[' => some .beginArray
  | ']' => some .endArray
  | '\x7b' => some .beginObject
  | '\x7d' => some .endObject
  | ':' => some .colon
  | ',' => some .comma
  | _ => none

def isSpace (c : Char) : Bool :=
  c == ' ' || c == '\t' || c == '\r' || c == '\n'

/-- The token at the front of a text that starts with no space, and the text after it. -/
def next? (c : Char) (rest : List Char) : Option (JsonToken × List Char) :=
  match punctuation? c with
  | some token => some (token, rest)
  | none =>
    if c = '"' then
      (stringUnits? [] rest).map fun (units, rest) => (.value (textValue units), rest)
    else if isLetter c then
      let (letters, rest) := (c :: rest).span isLetter
      (word? letters).map fun value => (.value value, rest)
    else
      let (literal, rest) := (c :: rest).span isNumberChar
      (number? literal).map fun value => (.value value, rest)

/-- All tokens of a text, given at least as much fuel as it has characters. -/
def scan : Nat → List Char → Option (List JsonToken)
  | _, [] => some []
  | 0, _ => none
  | fuel + 1, c :: rest =>
    if isSpace c then scan fuel rest
    else
      match next? c rest with
      | some (token, rest) => (scan fuel rest).map (token :: ·)
      | none => none

end JsonToken

end LightShow
