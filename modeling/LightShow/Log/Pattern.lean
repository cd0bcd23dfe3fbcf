import LightShow.Text.Numeral

/-!
Which texts can stand for the value of a field in a log directive: numbers, and patterns in the
usual notation for regular expressions. A directive is a text without commas and closing braces, so
that counted repetitions cannot be written.
-/

set_option autoImplicit false

namespace LightShow.LogPattern

def isAsciiLetter (c : Char) : Bool :=
  ('a' ≤ c && c ≤ 'z') || ('A' ≤ c && c ≤ 'Z')

/-- The rest after so many hexadecimal digits that spell the number of a character. -/
def afterScalar? (count : Nat) (text : List Char) : Option (List Char) := do
  let number ← basedValue? 16 (text.take count)
  if (text.take count).length = count ∧ number.isValidChar then some (text.drop count) else none

/-- The rest of a pattern after an escape, without its backslash. -/
def afterEscape? : List Char → Option (List Char)
  | [] => none
  | c :: rest =>
    if "dDsSwWntrfvaAz".toList.contains c then some rest
    else if c = 'x' then afterScalar? 2 rest
    else if c = 'u' then afterScalar? 4 rest
    else if c = 'U' then afterScalar? 8 rest
    else if c = 'p' ∨ c = 'P' then
      match rest with
      | kind :: rest => if "LMNPSZC".toList.contains kind then some rest else none
      | [] => none
    else if isAsciiLetter c || isDecimalDigit c || c = '<' || c = '>' || 0x7f < c.toNat then none
    else some rest

/-- The rest of a pattern after a class of characters, without its opening bracket. A bracket right
at the beginning stands for itself. -/
def afterClass? : Nat → Bool → Option Char → List Char → Option (List Char)
  | 0, _, _, _ => none
  | fuel + 1, atStart, previous, text =>
    match text with
    | [] => none
    | ']' :: rest => if atStart then afterClass? fuel false (some ']') rest else some rest
    | '[' :: rest => do
      let rest := if rest.head? = some '^' then rest.tail else rest
      afterClass? fuel false none (← afterClass? fuel true none rest)
    | '\\' :: rest => do afterClass? fuel false none (← afterEscape? rest)
    | '-' :: high :: rest =>
      match previous with
      | some low =>
        if high = ']' then some rest
        else if high = '\\' ∨ high = '[' then afterClass? fuel false none (high :: rest)
        else if low ≤ high then afterClass? fuel false none rest
        else none
      | none => afterClass? fuel false (some '-') (high :: rest)
    | c :: rest => afterClass? fuel false (some c) rest

/-- What opens or sets something for a group: the rest, and whether a group is opened. -/
def afterGroup? (text : List Char) : Option (List Char × Bool) :=
  match text with
  | '?' :: rest =>
    let named (rest : List Char) : Option (List Char × Bool) :=
      let isName (c : Char) : Bool := isAsciiLetter c || isDecimalDigit c || c = '_'
      let name := rest.takeWhile isName
      match rest.dropWhile isName with
      | '>' :: rest =>
        if name.head?.any fun c => !isDecimalDigit c then some (rest, true) else none
      | _ => none
    match rest with
    | 'P' :: '<' :: rest => named rest
    | '<' :: rest => named rest
    | ':' :: rest => some (rest, true)
    | _ =>
      let isFlag (c : Char) : Bool := "imsUuRx-".toList.contains c
      let flags := rest.takeWhile isFlag
      match rest.dropWhile isFlag with
      | ':' :: rest => if flags.isEmpty then none else some (rest, true)
      | ')' :: rest => if flags.isEmpty then none else some (rest, false)
      | _ => none
  | _ => some (text, true)

/-- Whether a pattern goes on well inside so many groups, after something that may be repeated or
not. -/
def goesOn : Nat → Nat → Bool → List Char → Bool
  | 0, _, _, _ => false
  | fuel + 1, groups, repeatable, text =>
    match text with
    | [] => groups == 0
    | '\\' :: rest => (afterEscape? rest).any (goesOn fuel groups true)
    | '[' :: rest =>
      let rest := if rest.head? = some '^' then rest.tail else rest
      (afterClass? fuel true none rest).any (goesOn fuel groups true)
    | '(' :: rest =>
      (afterGroup? rest).any fun (rest, opened) =>
        goesOn fuel (if opened then groups + 1 else groups) false rest
    | ')' :: rest => 0 < groups && goesOn fuel (groups - 1) true rest
    | '|' :: rest => goesOn fuel groups false rest
    | '\x7b' :: _ => false
    | c :: rest =>
      if c = '*' ∨ c = '+' ∨ c = '?' then repeatable && goesOn fuel groups true rest
      else goesOn fuel groups true rest

/-- A number with a plus sign in front. -/
def isPlusNumber : List Char → Bool
  | '+' :: text =>
    let small := String.ofList (text.map Char.toLower)
    let digits (text : List Char) : Bool := !text.isEmpty && text.all isDecimalDigit
    let isMark (c : Char) : Bool := c == 'e' || c == 'E'
    let mantissa := text.takeWhile fun c => !isMark c
    let whole := mantissa.takeWhile (· ≠ '.')
    let fraction := (mantissa.dropWhile (· ≠ '.')).drop 1
    let exponentFits := match text.dropWhile fun c => !isMark c with
      | [] => true
      | _ :: '+' :: rest => digits rest
      | _ :: '-' :: rest => digits rest
      | _ :: rest => digits rest
    ["inf", "infinity", "nan"].contains small
      || (digits (whole ++ fraction) && exponentFits)
  | _ => false

/-- Whether a text can stand for the value of a field. -/
def isValue (text : List Char) : Bool :=
  isPlusNumber text || goesOn (2 * text.length + 2) 0 false text

end LightShow.LogPattern
