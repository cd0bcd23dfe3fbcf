import LightShow.Json.Value

/-!
Records in JSON. A record is an object with its fields by name, where unknown names are passed over
and a known name stands at most once, or an array of its fields in order.
-/

set_option autoImplicit false

namespace LightShow

/-- What is given for a field. -/
inductive JsonSlot where
  | given (value : JsonValue)
  /-- The object has no such name. -/
  | missingName
  /-- The array is too short. -/
  | missingItem
  deriving Repr

/-- The fields of a record by name. -/
abbrev JsonRecord := String → JsonSlot

namespace JsonRecord

/-- A field that must be given. -/
def required {α : Type} (record : JsonRecord) (name : String) (read : JsonValue → Option α) :
    Option α :=
  match record name with
  | .given value => read value
  | _ => none

/-- A field that is otherwise taken from elsewhere. -/
def withDefault {α : Type} (record : JsonRecord) (name : String) (read : JsonValue → Option α)
    (absent : α) : Option α :=
  match record name with
  | .given value => read value
  | _ => some absent

/-- Reads a value that may be null. -/
def orNull {α : Type} (read : JsonValue → Option α) : JsonValue → Option (Option α)
  | .null => some none
  | value => (read value).map some

/-- A field that may be null or missing. -/
def optional {α : Type} (record : JsonRecord) (name : String) (read : JsonValue → Option α) :
    Option (Option α) :=
  record.withDefault name (orNull read) none

/-- A field that may be null and whose name may be missing, but not its place in an array. -/
def optionalName {α : Type} (record : JsonRecord) (name : String)
    (read : JsonValue → Option α) : Option (Option α) :=
  match record name with
  | .given value => orNull read value
  | .missingName => some none
  | .missingItem => none

end JsonRecord

namespace JsonValue

/-- Whether a name stands more than once in an object. -/
def isRepeated (fields : List (String × JsonValue)) (name : String) : Bool :=
  1 < (fields.filter fun field => field.1 = name).length

/-- The field of an object under a name. -/
def slotOf (fields : List (String × JsonValue)) (name : String) : JsonSlot :=
  match fields.find? fun field => field.1 = name with
  | some field => .given field.2
  | none => .missingName

/-- The item of an array at the place of a name. -/
def slotAt (items : List JsonValue) (names : List String) (name : String) : JsonSlot :=
  match items[names.idxOf name]? with
  | some value => .given value
  | none => .missingItem

/-- A value as a record with these names, in the order of its fields. -/
def record? (names : List String) : JsonValue → Option JsonRecord
  | .object fields => if names.any (isRepeated fields) then none else some (slotOf fields)
  | .array items =>
    if names.length < items.length then none else some (slotAt items names)
  | _ => none

/-- Whether a value is null. -/
def isNull : JsonValue → Bool
  | .null => true
  | _ => false

/-- A choice without parts: its name, or an object with its name alone and nothing under it. -/
def choiceWith? (isNothing : JsonValue → Bool) : JsonValue → Option String
  | .text name => some name
  | .object [(name, value)] => if isNothing value then some name else none
  | _ => none

/-- A choice without parts, with null for nothing. -/
def choice? : JsonValue → Option String :=
  choiceWith? isNull

/-- A field that is written only if it is present. -/
def optionalField (name : String) (value : Option JsonValue) : List (String × JsonValue) :=
  (value.map fun v => (name, v)).toList

end JsonValue

end LightShow
