import LightShow.Text.Numeral

/-!
Addresses of hosts that need no look-up. An address of 32 bits has one to four numbers with dots
between them, of which each may be decimal, octal or hexadecimal and the last one fills the bytes
that are left. One of 128 bits has eight groups of hexadecimal digits with colons between them;
two colons in a row stand for groups of zeros, and brackets may stand around the whole.
-/

set_option autoImplicit false

namespace LightShow

inductive HostAddress where
  /-- An address of four bytes, as one number. -/
  | short (number : Nat)
  /-- An address of eight groups of two bytes. -/
  | long (groups : List Nat)
  deriving DecidableEq, Repr

namespace HostAddress

/-- The parts of a text between separators. -/
def parts (separator : Char) : List Char → List (List Char)
  | [] => [[]]
  | c :: rest =>
    match parts separator rest with
    | [] => [[]]
    | part :: more => if c = separator then [] :: part :: more else (c :: part) :: more

/-- A number, which is hexadecimal after `0x` and octal after a zero. -/
def number? (text : List Char) : Option Nat :=
  match text with
  | ['0'] => some 0
  | '0' :: 'x' :: digits => basedValue? 16 digits
  | '0' :: 'X' :: digits => basedValue? 16 digits
  | '0' :: digits => basedValue? 8 digits
  | digits => basedValue? 10 digits

/-- The address of some numbers, of which the last one fills what the others leave. -/
def joined? (leading : Nat) (numbers : List Nat) : Option Nat :=
  match numbers with
  | [] => none
  | [last] => if last < Nat.pow 256 (4 - leading) then some last else none
  | first :: rest =>
    if first < 256 ∧ leading < 3 then
      (joined? (leading + 1) rest).map (first * Nat.pow 256 (3 - leading) + ·)
    else none

/-- An address of 32 bits in any of its forms. -/
def short? (text : List Char) : Option Nat := do
  joined? 0 (← (parts '.' text).mapM number?)

/-- A number of an address in its usual form: decimal, below 256, without leading zeros. -/
def byte? (text : List Char) : Option Nat := do
  let number ← basedValue? 10 text
  if number < 256 ∧ (text.head? ≠ some '0' ∨ text.length = 1) then some number else none

/-- Four bytes in the usual form, as two groups. -/
def byteGroups? (text : List Char) : Option (List Nat) := do
  match ← (parts '.' text).mapM byte? with
  | [a, b, c, d] => some [a * 256 + b, c * 256 + d]
  | _ => none

/-- Groups with colons between them. The last one may be an address of 32 bits. -/
def groups? (text : List Char) : Option (List Nat) :=
  let group? (digits : List Char) : Option Nat :=
    if digits.length ≤ 4 then basedValue? 16 digits else none
  if text.isEmpty then some []
  else do
    let all := parts ':' text
    let last := all.getLastD []
    let leading ← all.dropLast.mapM group?
    return leading ++ (← if last.contains '.' then byteGroups? last else (group? last).map ([·]))

/-- The text on both sides of the first two colons in a row. -/
def splitGap? : List Char → Option (List Char × List Char)
  | ':' :: ':' :: rest => some ([], rest)
  | c :: rest => (splitGap? rest).map fun (left, right) => (c :: left, right)
  | [] => none

/-- An address of 128 bits. -/
def long? (text : List Char) : Option (List Nat) := do
  match splitGap? text with
  | none =>
    let groups ← groups? text
    if groups.length = 8 then some groups else none
  | some (left, right) =>
    let before ← groups? left
    let behind ← groups? right
    if left.contains '.' ∨ 7 < before.length + behind.length then none
    else some (before ++ List.replicate (8 - before.length - behind.length) 0 ++ behind)

/-- The address that a text spells. -/
def ofText? (text : String) : Option HostAddress :=
  match text.toList with
  | '[' :: rest =>
    if rest.getLast? = some ']' then (long? rest.dropLast).map .long else none
  | chars => if chars.contains ':' then (long? chars).map .long else (short? chars).map .short

/-- Four bytes with dots between them. -/
def byteText (number : Nat) : String :=
  let places := [number / Nat.pow 256 3, number / Nat.pow 256 2, number / 256, number]
  ".".intercalate (places.map fun n => toString (n % 256))

/-- Where the first longest stretch of zeros begins, and how long it is. -/
def longestGap (groups : List Nat) : Nat × Nat :=
  let stretch (start : Nat) : Nat := ((groups.drop start).takeWhile (· = 0)).length
  (List.range groups.length).foldl (fun (best : Nat × Nat) start =>
    if best.2 < stretch start then (start, stretch start) else best) (0, 0)

/-- Groups with colons between them. -/
def groupText (groups : List Nat) : String :=
  ":".intercalate (groups.map fun n => String.ofList (Nat.toDigits 16 n))

/-- An address of 128 bits. Two colons stand for the longest stretch of zeros, and an address that
only wraps one of 32 bits ends in its bytes. -/
def longText (groups : List Nat) : String :=
  let (start, length) := longestGap groups
  match groups with
  | [0, 0, 0, 0, 0, 0xffff, high, low] => "::ffff:" ++ byteText (high * 65536 + low)
  | _ =>
    if length ≤ 1 then groupText groups
    else groupText (groups.take start) ++ "::" ++ groupText (groups.drop (start + length))

/-- An address with a port. -/
def withPort (address : HostAddress) (port : UInt16) : String :=
  match address with
  | .short number => byteText number ++ ":" ++ toString port
  | .long groups => "[" ++ longText groups ++ "]:" ++ toString port

end HostAddress

end LightShow
