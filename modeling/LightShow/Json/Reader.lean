import LightShow.Json.Token

/-!
Reading JSON texts. The tokens of a text are taken in one after another, with the arrays and objects
that are still open kept on a stack, so that any depth of nesting is read.
-/

set_option autoImplicit false

namespace LightShow

/-- An open array or object. The items so far are kept in reverse. -/
inductive JsonFrame where
  | array (items : List JsonValue)
  /-- `legible` says whether all names so far are texts. -/
  | object (fields : List (String × JsonValue)) (legible : Bool)
  /-- An object after a name and its colon. The name is missing if it is no text. -/
  | field (fields : List (String × JsonValue)) (legible : Bool) (name : Option String)
  deriving Repr

/-- What may come next. -/
inductive JsonExpectation where
  /-- A value. -/
  | value
  /-- A value or the end of the array just opened. -/
  | valueOrEnd
  /-- A name. -/
  | name
  /-- A name or the end of the object just opened. -/
  | nameOrEnd
  /-- The colon after a name. -/
  | colon
  /-- A comma or the end of the innermost array or object. -/
  | commaOrEnd
  /-- Nothing: the value is complete. -/
  | nothing (value : JsonValue)
  deriving Repr

structure JsonReader where
  stack : List JsonFrame := []
  expects : JsonExpectation := .value
  deriving Repr

namespace JsonReader

/-- Puts a complete value in its place. -/
def complete (value : JsonValue) : List JsonFrame → Option JsonReader
  | [] => some ⟨[], .nothing value⟩
  | .array items :: stack => some ⟨.array (value :: items) :: stack, .commaOrEnd⟩
  | .field fields legible name :: stack =>
    match name with
    | some name => some ⟨.object ((name, value) :: fields) legible :: stack, .commaOrEnd⟩
    | none => some ⟨.object fields false :: stack, .commaOrEnd⟩
  | .object _ _ :: _ => none

/-- The value of a closed object. -/
def objectValue (fields : List (String × JsonValue)) (legible : Bool) : JsonValue :=
  if legible then .object fields.reverse else .illegible

/-- Takes in one token. -/
def step (reader : JsonReader) (token : JsonToken) : Option JsonReader :=
  match reader.expects, token, reader.stack with
  | .value, .value v, stack | .valueOrEnd, .value v, stack => complete v stack
  | .value, .beginArray, stack | .valueOrEnd, .beginArray, stack =>
    some ⟨.array [] :: stack, .valueOrEnd⟩
  | .value, .beginObject, stack | .valueOrEnd, .beginObject, stack =>
    some ⟨.object [] true :: stack, .nameOrEnd⟩
  | .valueOrEnd, .endArray, .array items :: stack
  | .commaOrEnd, .endArray, .array items :: stack => complete (.array items.reverse) stack
  | .nameOrEnd, .endObject, .object fields legible :: stack
  | .commaOrEnd, .endObject, .object fields legible :: stack =>
    complete (objectValue fields legible) stack
  | .name, .value v, .object fields legible :: stack
  | .nameOrEnd, .value v, .object fields legible :: stack =>
    match v with
    | .text name => some ⟨.field fields legible (some name) :: stack, .colon⟩
    | .illegible => some ⟨.field fields legible none :: stack, .colon⟩
    | _ => none
  | .colon, .colon, stack => some ⟨stack, .value⟩
  | .commaOrEnd, .comma, .array items :: stack => some ⟨.array items :: stack, .value⟩
  | .commaOrEnd, .comma, .object fields legible :: stack =>
    some ⟨.object fields legible :: stack, .name⟩
  | _, _, _ => none

/-- The value the tokens make up, if it is complete. -/
def result? (reader : JsonReader) : Option JsonValue :=
  match reader.expects with
  | .nothing value => some value
  | _ => none

end JsonReader

/-- The value of a JSON text. -/
def JsonValue.read? (text : String) : Option JsonValue := do
  let chars := text.toList
  let tokens ← JsonToken.scan chars.length chars
  (← tokens.foldlM JsonReader.step {}).result?

end LightShow
