import LightShow.Files.Name
import LightShow.Text.Numeral

/-!
Log rotation. Before a session starts its log file, the oldest log files are removed, so that with
the new one at most a given number remains. Age goes by the number in the name; names without a
number are oldest.
-/

set_option autoImplicit false

namespace LightShow

/-- An entry of a directory. -/
structure DirectoryEntry where
  name : FileName
  isDirectory : Bool := false
  deriving DecidableEq, Repr

namespace LogRotation

/-- How the names of log files begin. -/
def logStem : String := "beatlight"

/-- Whether a name is that of a log file, which has to spell a text. -/
def isLog (name : FileName) : Bool :=
  name.splitExtension.2 == some (.ofText "log") && name.text?.any (·.startsWith logStem)

/-- What is left of a text after a beginning. -/
def after? : List Char → List Char → Option (List Char)
  | [], text => some text
  | c :: start, d :: text => if c = d then after? start text else none
  | _ :: _, [] => none

/-- The number in the name of a log file. -/
def stamp? (name : FileName) : Option Nat := do
  let stem ← name.splitExtension.1.text?
  let rest ← after? logStem.toList stem.toList
  readWord64 (← after? ['_'] rest)

/-- The name of the log file of a session. -/
def logName (stamp : Nat) : String :=
  logStem ++ "_" ++ toString stamp ++ ".log"

/-- Whether a log file comes before another: by number, a missing one first, then by name. -/
def isOlder (a b : DirectoryEntry) : Bool :=
  match stamp? a.name, stamp? b.name with
  | none, some _ => true
  | some _, none => false
  | none, none => !decide (b.name < a.name)
  | some m, some n => if m = n then !decide (b.name < a.name) else m < n

/-- The log files of a directory, oldest first. -/
def logs (entries : List DirectoryEntry) : List DirectoryEntry :=
  (entries.filter fun entry => isLog entry.name).mergeSort isOlder

/-- The log files that are too many, oldest first. -/
def excess (maxFiles : Nat) (entries : List DirectoryEntry) : List DirectoryEntry :=
  (logs entries).take ((logs entries).length - (maxFiles - 1))

/-- What a rotation does. -/
structure Outcome where
  /-- The entries removed, in order. -/
  removed : List DirectoryEntry
  /-- Whether a directory stood in the way. -/
  blocked : Bool
  deriving DecidableEq, Repr

/-- Removes what is too much, up to a directory. -/
def rotate (maxFiles : Nat) (entries : List DirectoryEntry) : Outcome :=
  let doomed := excess maxFiles entries
  let removed := doomed.takeWhile fun entry => !entry.isDirectory
  ⟨removed, removed.length < doomed.length⟩

end LogRotation

end LightShow
