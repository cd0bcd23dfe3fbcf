/-!
JSON values. Fields keep their order and may repeat; integers and other numbers are told apart.
-/

set_option autoImplicit false

namespace LightShow

inductive JsonValue where
  | null
  | bool (value : Bool)
  /-- A number written without fraction and exponent that fits in 64 bits. -/
  | int (value : Int)
  /-- Any other number. One beyond all finite numbers is infinite. -/
  | float (value : Float)
  | text (value : String)
  /-- A value that can only be passed over: a string, or an object with a name, that is no text
  because it holds half a surrogate pair; or a number beyond all numbers with a meaning. -/
  | illegible
  | array (items : List JsonValue)
  | object (fields : List (String × JsonValue))
  deriving Inhabited, Repr

namespace JsonValue

def text? : JsonValue → Option String
  | .text value => some value
  | _ => none

def bool? : JsonValue → Option Bool
  | .bool value => some value
  | _ => none

/-- A finite number, written as an integer or not. -/
def float? : JsonValue → Option Float
  | .int value => some (Float.ofInt value)
  | .float value => if value.isFinite then some value else none
  | _ => none

/-- Any number. -/
def number? : JsonValue → Option Float
  | .int value => some (Float.ofInt value)
  | .float value => some value
  | _ => none

/-- An integer between bounds. -/
def intIn? (low high : Int) : JsonValue → Option Int
  | .int value => if low ≤ value ∧ value ≤ high then some value else none
  | _ => none

def array? : JsonValue → Option (List JsonValue)
  | .array items => some items
  | _ => none

def int32? (value : JsonValue) : Option Int32 :=
  (value.intIn? Int32.minValue.toInt Int32.maxValue.toInt).map Int32.ofInt

def uint8? (value : JsonValue) : Option UInt8 :=
  (value.intIn? 0 (UInt8.size - 1)).map fun n => UInt8.ofNat n.toNat

def uint16? (value : JsonValue) : Option UInt16 :=
  (value.intIn? 0 (UInt16.size - 1)).map fun n => UInt16.ofNat n.toNat

def uint32? (value : JsonValue) : Option UInt32 :=
  (value.intIn? 0 (UInt32.size - 1)).map fun n => UInt32.ofNat n.toNat

def uint64? (value : JsonValue) : Option UInt64 :=
  (value.intIn? 0 (UInt64.size - 1)).map fun n => UInt64.ofNat n.toNat

/-- All items of an array. -/
def list? {α : Type} (read : JsonValue → Option α) (value : JsonValue) : Option (List α) :=
  value.array?.bind fun items => items.mapM read

end JsonValue

end LightShow
