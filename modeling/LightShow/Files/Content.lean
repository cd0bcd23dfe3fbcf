/-!
What a path leads to.
-/

set_option autoImplicit false

namespace LightShow

/-- What stands at a path. -/
inductive FileContent where
  | missing
  | directory
  | bytes (bytes : List UInt8)
  deriving Repr

/-- The text of a file, if it is one. -/
def FileContent.text? : FileContent → Option String
  | .bytes content => String.fromUTF8? ⟨content.toArray⟩
  | _ => none

end LightShow
