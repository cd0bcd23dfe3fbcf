/-!
Digits, and decimal numerals of unsigned 64-bit words: one or more digits, with one plus sign
allowed in front.
-/

set_option autoImplicit false

namespace LightShow

def isDecimalDigit (c : Char) : Bool :=
  '0' ≤ c && c ≤ '9'

/-- The number spelled by decimal digits, continuing from `start`. -/
def digitsValue (start : Nat) (digits : List Char) : Nat :=
  digits.foldl (fun n c => n * 10 + (c.toNat - '0'.toNat)) start

/-- The value of a hexadecimal digit. -/
def hexDigit? (c : Char) : Option Nat :=
  if '0' ≤ c && c ≤ '9' then some (c.toNat - 48)
  else if 'a' ≤ c && c ≤ 'f' then some (c.toNat - 87)
  else if 'A' ≤ c && c ≤ 'F' then some (c.toNat - 55)
  else none

/-- The number spelled by one or more digits of a base up to sixteen. -/
def basedValue? (base : Nat) (digits : List Char) : Option Nat := do
  let values ← digits.mapM fun c => (hexDigit? c).filter (· < base)
  if values.isEmpty then none else return values.foldl (fun n d => n * base + d) 0

/-- Reads a numeral that fits in 64 bits. -/
def readWord64 (text : List Char) : Option Nat :=
  let digits := if text.head? = some '+' then text.tail else text
  if digits.isEmpty || !digits.all isDecimalDigit then none
  else if digitsValue 0 digits < UInt64.size then some (digitsValue 0 digits) else none

end LightShow
