import LightShow.Text.Numeral

/-!
The address of a light on a bridge: host, port and the target of the request line. The text of an
address is normalised on the way: line breaks and tabs are left out, a fragment is cut off, dot
segments are resolved, and characters that may not stand in a target are written by their bytes.
-/

set_option autoImplicit false

namespace LightShow

structure BridgeAddress where
  host : String
  port : UInt16 := 80
  /-- Path and query. -/
  target : String
  deriving DecidableEq, Repr

namespace BridgeAddress

/-- A byte as a percent sign and two digits. -/
def escapedByte (byte : UInt8) : List Char :=
  let digit (n : Nat) : Char := Char.ofNat (if n < 10 then 0x30 + n else 0x41 + n - 10)
  ['%', digit (byte.toNat / 16), digit (byte.toNat % 16)]

/-- Whether a character has to be escaped wherever it stands. -/
def escapedAnywhere (c : Char) : Bool :=
  c.toNat ≤ 0x20 || 0x7f ≤ c.toNat || c == '"' || c == '#' || c == '<' || c == '>'

/-- Whether a character has to be escaped in a path. -/
def escapedInPath (c : Char) : Bool :=
  escapedAnywhere c || c == '?' || c == '\x60' || c == '\x7b' || c == '\x7d'

/-- Whether a character has to be escaped in a query. -/
def escapedInQuery (c : Char) : Bool :=
  escapedAnywhere c || c == '\x27'

/-- A text with the characters of a kind escaped. -/
def escaped (needed : Char → Bool) (text : List Char) : List Char :=
  text.flatMap fun c => if needed c then c.toString.toUTF8.toList.flatMap escapedByte else [c]

/-- A dot of a dot segment may be escaped. -/
def dotCount : List Char → Option Nat
  | [] => some 0
  | '.' :: rest => (dotCount rest).map (· + 1)
  | '%' :: '2' :: 'e' :: rest => (dotCount rest).map (· + 1)
  | '%' :: '2' :: 'E' :: rest => (dotCount rest).map (· + 1)
  | _ => none

/-- The segments of a text between slashes, of which a backslash is one. -/
def segments : List Char → List (List Char)
  | [] => [[]]
  | c :: rest =>
    if c = '/' ∨ c = '\\' then [] :: segments rest
    else
      match segments rest with
      | [] => [[c]]
      | segment :: more => (c :: segment) :: more

/-- Resolves dot segments. The segments so far are kept in reverse. A dot segment at the end leaves
an empty one. -/
def resolveDots (done : List (List Char)) : List (List Char) → List (List Char)
  | [] => done.reverse
  | segment :: rest =>
    let done := match dotCount segment with
      | some 1 => if rest.isEmpty then [] :: done else done
      | some 2 => if rest.isEmpty then [] :: done.tail else done.tail
      | _ => segment :: done
    resolveDots done rest

/-- The target of what follows the host. -/
def targetOf (text : List Char) : String :=
  let text := text.takeWhile (· ≠ '#')
  let path := text.takeWhile (· ≠ '?')
  let query := text.dropWhile (· ≠ '?')
  let steps := resolveDots [] (segments (path.drop 1))
  String.ofList (steps.flatMap (fun step => '/' :: escaped escapedInPath step)
    ++ (query.take 1 ++ escaped escapedInQuery (query.drop 1)))

/-- Whether a character ends the part of an address that names host and port. -/
def endsAuthority (c : Char) : Bool :=
  c == '/' || c == '\\' || c == '?' || c == '#'

/-- Whether a character may stand in the name of a host. -/
def isHostChar (c : Char) : Bool :=
  !escapedAnywhere c && !"%:/?@[]\\^|".toList.contains c

/-- A port, of which a missing one is the usual one. -/
def readPort (text : List Char) : Option UInt16 :=
  if text.isEmpty then some 80
  else if text.all isDecimalDigit && digitsValue 0 text < UInt16.size then
    some (UInt16.ofNat (digitsValue 0 text))
  else none

/-- Host and port. An address in brackets holds colons of its own. -/
def readAuthority (text : List Char) : Option (String × UInt16) := do
  let text := (text.reverse.takeWhile (· ≠ '@')).reverse
  let (host, rest) :=
    if text.head? = some '[' then
      (text.takeWhile (· ≠ ']') ++ [']'], (text.dropWhile (· ≠ ']')).drop 1)
    else (text.takeWhile (· ≠ ':'), text.dropWhile (· ≠ ':'))
  let name := if host.head? = some '[' then (host.drop 1).dropLast.filter (· ≠ ':') else host
  if name.isEmpty || !name.all isHostChar then none
  else
    match rest with
    | [] => return (String.ofList host, 80)
    | ':' :: port => return (String.ofList host, ← readPort port)
    | _ => none

/-- The address of the state of a light, unless the host makes it none. -/
def ofLight? (host key light : String) : Option BridgeAddress := do
  let text := host ++ "/api/" ++ key ++ "/lights/" ++ light ++ "/state"
  let kept := text.toList.filter fun c => c ≠ '\t' ∧ c ≠ '\n' ∧ c ≠ '\r'
  let (host, port) ← readAuthority (kept.takeWhile fun c => !endsAuthority c)
  return { host, port, target := targetOf (kept.dropWhile fun c => !endsAuthority c) }

end BridgeAddress

end LightShow
