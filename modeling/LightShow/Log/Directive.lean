import LightShow.Log.Line
import LightShow.Log.Pattern
import LightShow.Text.Alphanumeric

/-!
Directives for the log: a level, the beginning of the name of a part, or both with an equals sign
between. Behind the beginning, brackets may name a span and, in braces, a field that has to be
there. Places in a directive are counted without the blanks around it, but what stands there is
taken from the directive as it is written; so blanks behind a directive belong to its last part.
-/

set_option autoImplicit false

namespace LightShow

/-- The level of a number or a name in any case. -/
def LogLevel.ofDirective? (text : String) : Option LogLevel :=
  let levels : List LogLevel := [.off, .error, .warn, .info, .debug, .trace]
  let small := String.ofList (text.toList.map smallLetter)
  levels.find? fun level => small = level.name ∨ some level.rank = readWord64 text.toList

/-- A level for the parts whose names begin with a text. -/
structure LogDirective where
  /-- How the names begin, if it matters. -/
  beginning : Option String := none
  /-- Whether it only applies within a span, of which the program has none. -/
  spans : Bool := false
  /-- The field that a line has to have, if one is asked for. -/
  field : Option String := none
  level : LogLevel := .trace
  deriving DecidableEq, Repr

namespace LogDirective

/-- The rest of a text after so many bytes, unless that is within a character. -/
def dropBytes (count : Nat) : List Char → Option (List Char)
  | [] => if count = 0 then some [] else none
  | c :: rest =>
    if count = 0 then some (c :: rest)
    else if c.utf8Size ≤ count then dropBytes (count - c.utf8Size) rest
    else none

/-- The first bytes of a text, unless their end is within a character. -/
def takeBytes (count : Nat) : List Char → Option (List Char)
  | [] => if count = 0 then some [] else none
  | c :: rest =>
    if count = 0 then some []
    else if c.utf8Size ≤ count then (takeBytes (count - c.utf8Size) rest).map (c :: ·)
    else none

/-- What stands between two places of a text. -/
def cut? (text : List Char) (first last : Nat) : Option (List Char) :=
  (dropBytes first text).bind (takeBytes (last - first))

/-- How far a directive is read. The numbers are the places where parts begin. -/
inductive Stage where
  | start
  /-- In a level or in the beginning of a name. -/
  | word
  | span (first : Nat)
  | field (first : Nat)
  /-- Behind the closing brace. -/
  | fieldEnd
  /-- Behind the closing bracket. -/
  | spanEnd
  | level (first : Nat)
  deriving DecidableEq, Repr

/-- Takes in a field, which has a name and possibly a value. A value can only be met in a span. -/
def addField (directive : LogDirective) (text : List Char) : Option LogDirective :=
  let name := String.ofList (text.takeWhile (· ≠ '='))
  match text, text.dropWhile (· ≠ '=') with
  | [], _ => none
  | _, [] => some { directive with field := some name }
  | _, _ :: value =>
    if LogPattern.isValue (value.takeWhile (· ≠ '=')) then
      some { directive with field := some name, spans := true }
    else none

/-- Takes in the character at a place. -/
def step (text : List Char) (place : Nat) (c : Char) (directive : LogDirective) :
    Stage → Option (LogDirective × Stage)
  | .start =>
    if c = '[' then some (directive, .span (place + 1))
    else if isAlphanumeric c || "-:_".toList.contains c then some (directive, .word)
    else none
  | .word =>
    if c = '=' ∨ c = '[' then do
      let beginning := some (String.ofList (← cut? text 0 place))
      let next : Stage := if c = '=' then .level (place + 1) else .span (place + 1)
      return ({ directive with beginning }, next)
    else some (directive, .word)
  | .span first =>
    if c = ']' then some ({ directive with spans := true }, .spanEnd)
    else if c = '\x7b' then do
      let name ← cut? text first place
      return ({ directive with spans := !name.isEmpty }, .field (place + 1))
    else some (directive, .span first)
  | .field first =>
    if c = '\x7d' then do return (← directive.addField (← cut? text first place), .fieldEnd)
    else some (directive, .field first)
  | .fieldEnd => if c = ']' then some (directive, .spanEnd) else none
  | .spanEnd => if c = '=' then some (directive, .level (place + 1)) else none
  | .level first => some (directive, .level first)

/-- Takes in characters from a place on. -/
def readFrom (text : List Char) :
    Nat → LogDirective → Stage → List Char → Option (LogDirective × Stage)
  | _, directive, stage, [] => some (directive, stage)
  | place, directive, stage, c :: rest => do
    let (directive, stage) ← directive.step text place c stage
    readFrom text (place + c.utf8Size) directive stage rest

/-- Takes in the end of the text. -/
def finish (text : List Char) (directive : LogDirective) : Stage → Option LogDirective
  | .word =>
    match LogLevel.ofDirective? (String.ofList text) with
    | some level => some { directive with level }
    | none => some { directive with beginning := some (String.ofList text) }
  | .level first => do
    match ← dropBytes first text with
    | [] => return directive
    | name => return { directive with level := ← LogLevel.ofDirective? (String.ofList name) }
  | .spanEnd => some directive
  | _ => none

/-- Reads a directive. -/
def read? (text : String) : Option LogDirective := do
  let chars := text.toList
  let (directive, stage) ← readFrom chars 0 {} .start (trimBlank chars)
  directive.finish chars stage

/-- The only field that log lines have. -/
def messageField : String := "message"

/-- Whether a directive applies to a part. -/
def applies (directive : LogDirective) (part : LogPart) : Bool :=
  !directive.spans && directive.beginning.all (fun text => part.name.startsWith text)
    && directive.field.all (· == messageField)

/-- How special a directive is: a longer beginning counts before a field. -/
def specialty (directive : LogDirective) : Nat × Nat :=
  ((directive.beginning.map fun text => text.utf8ByteSize + 1).getD 0,
    if directive.field.isSome then 1 else 0)

/-- Whether a directive gives way to another one. -/
def yieldsTo (directive other : LogDirective) : Bool :=
  directive.specialty.1 < other.specialty.1
    || (directive.specialty.1 == other.specialty.1 && directive.specialty.2 < other.specialty.2)

end LogDirective

end LightShow
