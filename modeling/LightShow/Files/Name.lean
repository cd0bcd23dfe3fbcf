/-!
Names of files and directories. A name is a string of bytes, which need not spell a text.
-/

set_option autoImplicit false

namespace LightShow

/-- The name of a file or directory. -/
abbrev FileName := List UInt8

namespace FileName

/-- The name that spells a text. -/
def ofText (text : String) : FileName :=
  text.toUTF8.data.toList

/-- The text that a name spells, if it spells one. -/
def text? (name : FileName) : Option String :=
  String.fromUTF8? ⟨name.toArray⟩

/-- A name as it is shown. One that spells no text is shown byte by byte. -/
def shown (name : FileName) : String :=
  name.text?.getD (String.ofList (name.map fun byte => Char.ofNat byte.toNat))

/-- The step that stays where it is. -/
def here : FileName := ofText "."

/-- The step that leads up. -/
def up : FileName := ofText ".."

/-- The dot in front of an extension. -/
def dot : UInt8 := 46

/-- The part of a name before the last dot and the part after it. A dot in front counts as none. -/
def splitExtension (name : FileName) : FileName × Option FileName :=
  let reversed := name.reverse
  let extension := reversed.takeWhile (· ≠ dot)
  match reversed.dropWhile (· ≠ dot) with
  | _ :: stem@(_ :: _) => (stem.reverse, some extension.reverse)
  | _ => (name, none)

end FileName

end LightShow
